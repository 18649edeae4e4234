import Playback.Failure
import Playback.Text.Timecode
import Playback.Tracking.Emitter

/-! Records and failures as lines of text in columns. -/

namespace Playback

open Text

/-- What an event tells, in short. -/
def Payload.summary : Payload → String
  | .none => ""
  | .playback position covered => "at " ++ timecode position ++ s!" ({covered}%)"
  | .percent covered => s!"{covered}%"
  | .seek origin target => timecode origin ++ " -> " ++ timecode target
  | .ad a => "ad " ++ a.id
  | .avails slots position => s!"{slots.length} avail(s) at " ++ timecode position
  | .info message => message

/-- The `sequence`-th event as a line. -/
def Event.line (e : Event) (sequence : Nat) : String :=
  "#" ++ padEnd 3 (toString sequence) ++ " " ++ padEnd 26 e.kind.name ++ " " ++
    padEnd 48 e.videoId ++ " " ++ e.payload.summary

def Failure.line (f : Failure) : String := padEnd 20 f.kind.code ++ " " ++ f.message

end Playback
