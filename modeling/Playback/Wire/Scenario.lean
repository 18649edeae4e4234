import Playback.Json.Reader
import Playback.Simulation.Scenario
import Playback.Wire.Signal
import Playback.Wire.Video

/-! Scenarios in JSON, and the texts that a scenario, a configuration or a signal is read from. -/

namespace Playback

open Json

namespace ScenarioStep

/-- A step about which nothing more is said; other fields are skipped. -/
def plain (s : ScenarioStep) (j : Json) : Option ScenarioStep := (j.fields []).map fun _ => s

/-- A step with one field. The step was held back while its tag was looked for. -/
def withField (name : String) (decode : Json → Option α) (make : α → ScenarioStep) (j : Json) :
    Option ScenarioStep := do
  let f ← j.fields [name]
  (required decode name f).map make

def forms : List (String × (Json → Option ScenarioStep)) :=
  [("signal", withField "signal" (Signal.decode true) .signal), ("play", plain .play),
    ("pause", plain .pause), ("add_video", withField "video" (Video.decode true) .addVideo),
    ("switch_backend", withField "backend" (Backend.decode true) .switchBackend),
    ("enter_picture_in_picture", plain .enterPip), ("exit_picture_in_picture", plain .exitPip),
    ("wait", withField "millis" uint64? .wait), ("release", plain .release)]

def decode : Json → Option ScenarioStep := byTag false "step" forms

end ScenarioStep

namespace Scenario

def fieldNames : List String := ["videos", "ad_urls", "ad_session", "avails", "steps"]

def decode (j : Json) : Option Scenario := do
  let f ← j.fields fieldNames
  let videos ← required (listOf (Video.decode false)) "videos" f
  let adTags ← optional (nullable (listOf text?)) none "ad_urls" f
  let adSession ← optional (nullable AdSession.decode) none "ad_session" f
  let avails ← optional (listOf Avail.decode) [] "avails" f
  let steps ← optional (listOf ScenarioStep.decode) [] "steps" f
  some { videos, adTags, adSession, avails, steps }

def ofText? (text : String) : Option Scenario := (read? text).bind decode

end Scenario

/-- What is said of a text that is no JSON, or not that of what is looked for. -/
def malformed : String := "<json>"

/-- The configuration that a text writes, if it can be used. -/
def Config.ofText (text : String) : Except Error Config :=
  match (read? text).bind Config.decode with
  | none => .error (.malformedConfig malformed)
  | some c =>
    match c.fault? with
    | some e => .error e
    | none => .ok c

def Signal.ofText? (text : String) : Option Signal := (read? text).bind (Signal.decode false)

end Playback
