/-! The phases of playback and the changes between them that make sense. -/

namespace Playback

inductive Phase where
  /-- No video is loaded. -/
  | idle
  /-- A video is loaded and has not started. -/
  | ready
  | playing
  | paused
  /-- An ad break is on screen. -/
  | adBreak (paused : Bool)
  /-- The video has ended. -/
  | ended
  deriving DecidableEq, Repr, Inhabited

namespace Phase

def name : Phase → String
  | .idle => "idle"
  | .ready => "ready"
  | .playing => "playing"
  | .paused => "paused"
  | .adBreak false => "ad_playing"
  | .adBreak true => "ad_paused"
  | .ended => "ended"

/-- A phase may be followed by `target`. Everything may be given up, and a video may be loaded at
any time but during an ad break; only the start of a video, of an ad break or of the next video
leads out of the end. -/
def allows : Phase → Phase → Bool
  | _, .idle => true
  | .adBreak _, .ready => false
  | _, .ready => true
  | .ready, target => (target matches .playing | .paused | .adBreak _)
  | .playing, target => (target matches .paused | .adBreak _ | .ended)
  | .paused, target => (target matches .playing | .adBreak _ | .ended)
  | .adBreak _, _ => true
  | .ended, target => (target matches .playing | .adBreak _)
  | .idle, _ => false

/-- The phase after a change to `target` is asked for: a change that makes no sense is not made. -/
def move (p target : Phase) : Phase := if p.allows target then target else p

/-- A change to `target` leaves the phase there. -/
def reaches (p target : Phase) : Bool := p = target || p.allows target

end Phase

end Playback
