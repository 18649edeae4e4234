import Playback.Error

/-! What goes wrong during playback: the fault that an engine reports, and the failure that clients
are told about. -/

namespace Playback

/-- What an engine reports. -/
inductive Fault where
  | behindLiveWindow
  | source (message : String)
  | renderer (message : String)
  | unexpected (message : String)
  deriving DecidableEq, Repr

inductive FailureKind where
  /-- The position fell out of the window of a live stream; a jump back into it mends that. -/
  | behindLiveWindow
  | sourceUnavailable
  | engineFatal
  deriving DecidableEq, Repr

namespace FailureKind

def code : FailureKind → String
  | .behindLiveWindow => "BEHIND_LIVE_WINDOW"
  | .sourceUnavailable => "SOURCE_UNAVAILABLE"
  | .engineFatal => "ENGINE_FATAL"

def isRecoverable (k : FailureKind) : Bool := k matches .behindLiveWindow

end FailureKind

structure Failure where
  kind : FailureKind
  message : String
  deriving DecidableEq, Repr

namespace Failure

def text (f : Failure) : String := f.kind.code ++ ": " ++ f.message

/-- The failure as the error of a call. -/
def toError (f : Failure) : Error :=
  match f.kind with
  | .behindLiveWindow => .streamDiscontinuity f.message
  | .sourceUnavailable => .sourceUnavailable f.message
  | .engineFatal => .engineFatal f.message

end Failure

/-- The failure that a fault is reported as: whatever the engine cannot tell is fatal. -/
def Fault.classify : Fault → Failure
  | .behindLiveWindow => ⟨.behindLiveWindow, "playback fell behind the live window"⟩
  | .source message => ⟨.sourceUnavailable, message⟩
  | .renderer message => ⟨.engineFatal, message⟩
  | .unexpected message => ⟨.engineFatal, message⟩

end Playback
