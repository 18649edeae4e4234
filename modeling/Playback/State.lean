import Playback.Phase
import Playback.Video

/-! The state of a session that a client can see. -/

namespace Playback

structure State where
  phase : Phase := .idle
  backend : Backend := .device
  /-- The video has been reported as started and not as ended since. -/
  playStarted : Bool := false
  firstAdCompleted : Bool := false
  /-- The client asks to keep the session. -/
  sticky : Bool := false
  inPip : Bool := false
  deriving DecidableEq, Repr, Inhabited

namespace State

/-- The video or an ad is moving. -/
def isPlaying (s : State) : Bool := s.phase matches .playing | .adBreak false

/-- An ad break is on screen. -/
def inAdBreak (s : State) : Bool := s.phase matches .adBreak _

/-- An ad break is on screen and stands still. -/
def adPaused (s : State) : Bool := s.phase = .adBreak true

def move (s : State) (target : Phase) : State := { s with phase := s.phase.move target }

/-- Back to the start; the backend and Picture-in-Picture outlive a video. -/
def reset (s : State) : State := { backend := s.backend, inPip := s.inPip }

end State

end Playback
