import Playback.Video

/-! Why a call to a session is refused or fails. -/

namespace Playback

inductive Error where
  | notConfigured
  | notInitialized
  | adCountMismatch (videos ads : Nat)
  | emptyPlaylist
  | backendUnavailable (backend : Backend)
  | streamDiscontinuity (detail : String)
  | sourceUnavailable (detail : String)
  | engineFatal (detail : String)
  | invalidConfig (detail : String)
  /-- A configuration that is no JSON, or not that of a configuration. -/
  | malformedConfig (detail : String)
  /-- A file that cannot be read. -/
  | file (detail : String)
  /-- The session's task has ended. -/
  | closed
  deriving DecidableEq, Repr

namespace Error

/-- The code that names the kind of error, which never changes. -/
def code : Error → String
  | .notConfigured => "NOT_CONFIGURED"
  | .notInitialized => "SESSION_NOT_INITIALIZED"
  | .adCountMismatch _ _ => "AD_COUNT_MISMATCH"
  | .emptyPlaylist => "EMPTY_PLAYLIST"
  | .backendUnavailable _ => "BACKEND_UNAVAILABLE"
  | .streamDiscontinuity _ => "STREAM_DISCONTINUITY"
  | .sourceUnavailable _ => "SOURCE_UNAVAILABLE"
  | .engineFatal _ => "ENGINE_FATAL"
  | .invalidConfig _ => "INVALID_CONFIG"
  | .malformedConfig _ => "CONFIG_PARSE"
  | .file _ => "IO"
  | .closed => "SESSION_CLOSED"

def message : Error → String
  | .notConfigured => "Session has not been configured"
  | .notInitialized => "Session has not been initialized"
  | .adCountMismatch videos ads => s!"Ad URL count mismatch: {ads} ad URLs for {videos} videos"
  | .emptyPlaylist => "Playlist is empty"
  | .backendUnavailable backend => "Playback backend not available: " ++ backend.name
  | .streamDiscontinuity detail => "Recoverable stream discontinuity: " ++ detail
  | .sourceUnavailable detail => "Source unavailable: " ++ detail
  | .engineFatal detail => "Playback engine error: " ++ detail
  | .invalidConfig detail => "Invalid configuration: " ++ detail
  | .malformedConfig detail => "Failed to parse configuration: " ++ detail
  | .file detail => "IO error: " ++ detail
  | .closed => "Session task has shut down"

/-- What the error was caused by, where that has a text of its own. -/
def cause? : Error → Option String
  | .malformedConfig detail => some detail
  | .file detail => some detail
  | _ => none

/-- Playback goes on after the error. -/
def isRecoverable : Error → Bool
  | .streamDiscontinuity _ => true
  | _ => false

end Error

end Playback
