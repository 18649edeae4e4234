import Playback.Json.Printer
import Playback.Report.Line
import Playback.Session.Basic
import Playback.Wire.Event

/-! The report of a simulation: the events and the failures that the session told, as lines or as
JSON. -/

namespace Playback

structure Report where
  sessionId : String
  records : List Record
  failures : List Failure
  deriving DecidableEq, Repr

namespace Report

/-- The report of what a session told; `stamp` gives the stamp of each event by its number. -/
def ofCommands (sessionId : String) (stamp : Nat → Stamp) (commands : List Command) : Report :=
  let events := commands.filterMap fun c => match c with
    | .event e => some e
    | _ => none
  let emitter := events.foldl (fun (m : Emitter) e => m.emit (stamp (m.sequence + 1)) e)
    { sessionId }
  { sessionId
    records := emitter.queue
    failures := commands.filterMap fun c => match c with
      | .report f => some f
      | _ => none }

def encode (r : Report) : Json :=
  .object [("session_id", .string r.sessionId), ("events", Json.list Record.encode r.records),
    ("errors", Json.list Failure.encode r.failures)]

def lines (r : Report) : List String :=
  ["Session " ++ r.sessionId, "", s!"Tracking events ({r.records.length}):"] ++
    r.records.map (fun record => "  " ++ record.event.line record.sequence) ++
    if r.failures.isEmpty then []
    else ["", s!"Playback errors ({r.failures.length}):"] ++
      r.failures.map fun f => "  " ++ f.line

end Report

end Playback
