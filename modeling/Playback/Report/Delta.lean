import Playback.Classification
import Playback.Text.Quoted

/-! The changes that follow from a signal, written out field by field. -/

namespace Playback

/-- `None`, or a value in `Some(…)`. -/
def optionText (text : α → String) : Option α → String
  | none => "None"
  | some a => "Some(" ++ text a ++ ")"

def boolText (b : Bool) : String := if b then "true" else "false"

/-- A value with named fields. -/
def fieldsText (name : String) (fields : List (String × String)) : String :=
  name ++ " \x7b " ++ String.intercalate ", " (fields.map fun f => f.1 ++ ": " ++ f.2) ++ " \x7d"

def Phase.text : Phase → String
  | .idle => "Idle"
  | .ready => "Ready"
  | .playing => "Playing"
  | .paused => "Paused"
  | .adBreak still => fieldsText "AdBreak" [("paused", boolText still)]
  | .ended => "Ended"

def PositionChange.text : PositionChange → String
  | .record position => "Record(" ++ toString position.toInt ++ ")"
  | .clear => "Clear"

def TimerChange.text : TimerChange → String
  | .start => "Start"
  | .stop => "Stop"

def FailureKind.text : FailureKind → String
  | .behindLiveWindow => "BehindLiveWindow"
  | .sourceUnavailable => "SourceUnavailable"
  | .engineFatal => "EngineFatal"

def Failure.fieldsText (f : Failure) : String :=
  Playback.fieldsText "PlaybackError" [("kind", f.kind.text), ("message", Text.quoted f.message)]

def Delta.text (d : Delta) : String :=
  fieldsText "StateDelta"
    [("phase", optionText Phase.text d.phase),
      ("play_started", optionText boolText d.playStarted),
      ("first_ad_completed", optionText boolText d.firstAdCompleted),
      ("position", optionText PositionChange.text d.position),
      ("timer", optionText TimerChange.text d.timer),
      ("advance_playlist", boolText d.advances),
      ("fault", optionText Failure.fieldsText d.failure)]

end Playback
