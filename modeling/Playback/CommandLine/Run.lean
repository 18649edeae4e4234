import Playback.CommandLine.Arguments
import Playback.Report.Delta
import Playback.Report.Simulation
import Playback.Simulation.Run
import Playback.Wire.Scenario

/-! What the program prints. Reading files is left to the caller, and so are the stamps of
events. -/

namespace Playback.CommandLine

/-- What is outside the program: the text of a file or why it cannot be read, the id of a session,
and the stamp of an event by its number. -/
structure Surroundings where
  contents : String → Except String String
  sessionId : String
  stamp : Nat → Stamp

/-- The word `json` in any case asks for JSON, and anything else for text. -/
def asJson (format : String) : Bool := format.map Char.toLower = "json"

/-- The configuration in a file, or the default one. -/
def loadConfig (env : Surroundings) : Option String → Except Complaint Config
  | none => .ok {}
  | some path =>
    let loaded : Except Error Config := match env.contents path with
      | .error detail => .error (.file detail)
      | .ok text => Config.ofText text
    loaded.mapError fun e => ("loading config " ++ path) :: e.complaint

/-- The scenario in a file. -/
def loadScenario (env : Surroundings) (path : String) : Except Complaint Scenario :=
  match env.contents path with
  | .error detail => .error ["reading scenario " ++ path, detail]
  | .ok text =>
    match Scenario.ofText? text with
    | none => .error ["reading scenario " ++ path, malformed]
    | some scenario => .ok scenario

/-- Plays a scenario and reports it. -/
def simulate (env : Surroundings) (path : String) (configPath : Option String) (format : String) :
    Except Complaint (List String) := do
  let config ← loadConfig env configPath
  let scenario ← loadScenario env path
  let commands ← scenario.run config
  let report := Report.ofCommands env.sessionId env.stamp commands
  .ok (if asJson format then [report.encode.pretty] else report.lines)

/-- The meaning of a signal for a video that has just been loaded. -/
def classifyOne (signal : Signal) (live : Bool) (duration : Int64) (tracked : Bool) :
    Classification :=
  let video := if live then Video.live "cli://video" else Video.onDemand "cli://video" duration
  Circumstances.classify { state := {}, video, tracked } signal

/-- A classification in lines. -/
def classificationLines (c : Classification) : List String :=
  [match c.event with
    | some e => "Event: " ++ e.kind.name ++ " " ++ e.payload.encode.pretty
    | none => "Event: (none)",
    if c.delta.isEmpty then "State: unchanged" else "State: " ++ c.delta.text]

/-- A classification in JSON; the members stand in the order of their names. -/
def classificationJson (c : Classification) : Json :=
  let members := [("event", Json.orNull Event.encode c.event), ("delta", .string c.delta.text)]
  (Json.object members).sorted

/-- Prints the meaning of a signal. -/
def classify (text : String) (live : Bool) (duration : Int64) (tracked : Bool) (format : String) :
    Except Complaint (List String) :=
  match Signal.ofText? text with
  | none => .error ["parsing signal", malformed]
  | some signal =>
    let c := classifyOne signal live duration tracked
    .ok (if asJson format then [(classificationJson c).pretty] else classificationLines c)

/-- A configuration in lines. -/
def configLines (c : Config) : List String :=
  ["Session configuration:", "  Ads enabled:          " ++ boolText c.adsEnabled,
    "  Cast enabled:         " ++ boolText c.castEnabled,
    "  Avail poll period:    " ++ toString c.pollPeriod ++ "ms",
    "  Resume positions:     " ++ boolText c.resumePositions,
    "  Hide chrome in PiP:   " ++ boolText c.hideChromeInPip]

/-- Prints the configuration that is in force. -/
def config (env : Surroundings) (path : Option String) (format : String) :
    Except Complaint (List String) := do
  let c ← loadConfig env path
  .ok (if asJson format then [c.encode.pretty] else configLines c)

/-- Does a job. What is printed may have line ends in it. -/
def run (env : Surroundings) (job : Job) (format : String) : Except Complaint (List String) :=
  match job with
  | .simulate scenario configPath => simulate env scenario configPath format
  | .classify signal live duration tracked => classify signal live duration tracked format
  | .config path => config env path format

def versionLine : String := "playhead-cli 0.1.0"

def usageLines : List String :=
  ["Usage: playhead-cli [-v] [-f FORMAT] COMMAND", "", "Commands:",
    "  simulate SCENARIO [-c CONFIG]                        play a scenario and report it",
    "  classify SIGNAL [--live] [-d DURATION] [--tracked]   tell what a signal means",
    "  config [FILE]                                        show a configuration"]

/-- What is printed, and the exit code: 0 when all went well, 1 after a complaint, and 2 when the
arguments make no sense. -/
structure Response where
  exit : Nat
  output : List String
  complaint : Complaint

def Response.ofResult : Except Complaint (List String) → Response
  | .ok output => ⟨0, output, []⟩
  | .error complaint => ⟨1, [], complaint⟩

/-- What the program does with its arguments. -/
def respond (env : Surroundings) (args : List String) : Response :=
  match parse args with
  | .run job format => .ofResult (run env job format)
  | .version => ⟨0, [versionLine], []⟩
  | .help => ⟨0, usageLines, []⟩
  | .misuse => ⟨2, [], ["the arguments make no sense"] ++ usageLines⟩

end Playback.CommandLine
