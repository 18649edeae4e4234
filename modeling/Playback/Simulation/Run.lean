import Playback.Rehearsal.Task
import Playback.Simulation.Stub

/-! A scenario played from its beginning to its end on stub engines. -/

namespace Playback

/-- An error with what led to it, the outermost first. -/
abbrev Complaint := List String

/-- The error and its own cause. -/
def Error.complaint (e : Error) : Complaint := e.message :: e.cause?.toList

namespace Scenario

/-- Makes a call, or stops with what is wrong. -/
def attempt (w : World Int64) (op : Operation) (t : Task Int64) : Except Error (Task Int64) :=
  match t.call w op with
  | (t, none) => .ok t
  | (_, some e) => .error e

/-- Does one step. -/
def play (w : World Int64) (t : Task Int64) : ScenarioStep → Except Error (Task Int64)
  | .signal s => attempt w (.signal s) t
  | .play => attempt w .play t
  | .pause => attempt w .pause t
  | .addVideo video => attempt w (.addVideo video) t
  | .switchBackend backend => attempt w (.switchBackend backend) t
  | .enterPip => attempt w .enterPip t
  | .exitPip => attempt w .exitPip t
  | .wait millis => .ok (t.wait w (Duration.millis millis.toNat))
  | .release => attempt w .release t

/-- Does the steps from the one with the number `index` on. -/
def playFrom (w : World Int64) (index : Nat) (t : Task Int64) :
    List ScenarioStep → Except Complaint (Task Int64)
  | [] => .ok t
  | step :: rest =>
    match play w t step with
    | .ok t => playFrom w (index + 1) t rest
    | .error e => .error (s!"step {index} failed" :: e.complaint)

/-- Everything that the session tells when the scenario is played with a configuration. -/
def run (scenario : Scenario) (config : Config) : Except Complaint (List Command) := do
  let w := World.stub scenario
  let t := Task.spawn {} 0
  let t ← (attempt w (.configure config) t).mapError Error.complaint
  let t ← (attempt w scenario.opening t).mapError Error.complaint
  let t ← playFrom w 0 t scenario.steps
  let t ← (attempt w .release t).mapError Error.complaint
  .ok (t.finish w).rehearsal.log

end Scenario

end Playback
