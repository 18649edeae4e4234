import Playback.Proofs.Trace
import Playback.Session.Step

/-! Runs of a session: what happens to it, one thing after another, and the history of that. Every
state that a session can be in is the state after a run. A run may hold any messages from the
background, at any time and in any order, whether a timer or a fetch has brought them or not. -/

namespace Playback

/-- One thing that happens to a session. -/
inductive Incident where
  /-- An operation, with what the components around the session answer while it runs. -/
  | operation (op : Operation) (answers : Answers)
  /-- Time passes until `limit`; a tick on the way is a message of its own. -/
  | wait (limit : Instant)
  deriving DecidableEq, Repr

namespace Incident

/-- The signal that comes in, if one does. -/
def signal? : Incident → Option Signal
  | .operation (.signal signal) _ => some signal
  | _ => none

/-- No call of a client, but a signal, a message from the background, or a wait. -/
def isReport : Incident → Bool
  | .operation (.signal _) _ | .operation (.handoff _) _ | .wait _ => true
  | _ => false

theorem signal?_eq_some {i : Incident} {signal : Signal} :
    i.signal? = some signal ↔ ∃ a, i = .operation (.signal signal) a := by
  unfold signal?
  split <;> simp_all

theorem signal?_eq_none {i : Incident} :
    i.signal? = none ↔ ∀ signal a, i ≠ .operation (.signal signal) a := by
  unfold signal?
  split <;> simp_all

end Incident

/-- An incident with the session that it happens to. -/
structure Entry where
  before : Session
  incident : Incident
  deriving DecidableEq, Repr

namespace Session

/-- A session to which nothing has happened. -/
def fresh (id : String) : Session := { id }

/-- What comes of an incident. -/
def undergo (s : Session) : Incident → Outcome
  | .operation op a => s.step a op
  | .wait limit => issue { s with poller := (s.poller.elapse limit true).1 } []

/-- The session after a run. -/
def after (s : Session) (run : List Incident) : Session :=
  run.foldl (fun s i => (s.undergo i).session) s

/-- The incidents of a run, each with the session before it. -/
def history (s : Session) (run : List Incident) : List Entry :=
  (trace (fun s i => (s.undergo i).session) s run).map fun x => ⟨x.1, x.2⟩

end Session

def Entry.outcome (e : Entry) : Outcome := e.before.undergo e.incident

namespace Session

/-- Everything that a session tells during a run. -/
def log (s : Session) (run : List Incident) : List Command :=
  (s.history run).flatMap (·.outcome.commands)

variable (s : Session) (run rest : List Incident) (i : Incident)

@[simp] theorem after_nil : s.after [] = s := rfl

@[simp] theorem after_cons : s.after (i :: rest) = (s.undergo i).session.after rest := rfl

theorem after_append : s.after (run ++ rest) = (s.after run).after rest := by
  simp [after, List.foldl_append]

@[simp] theorem after_concat : s.after (run ++ [i]) = ((s.after run).undergo i).session := by
  simp [after_append]

@[simp] theorem history_nil : s.history [] = [] := rfl

@[simp] theorem history_cons :
    s.history (i :: rest) = ⟨s, i⟩ :: (s.undergo i).session.history rest := rfl

theorem history_append : s.history (run ++ rest) = s.history run ++ (s.after run).history rest := by
  simp [history, trace_append, after]

@[simp] theorem history_concat :
    s.history (run ++ [i]) = s.history run ++ [⟨s.after run, i⟩] := by
  simp [history_append]

@[simp] theorem log_nil : s.log [] = [] := rfl

@[simp] theorem log_cons :
    s.log (i :: rest) = (s.undergo i).commands ++ (s.undergo i).session.log rest := rfl

@[simp] theorem log_concat :
    s.log (run ++ [i]) = s.log run ++ ((s.after run).undergo i).commands := by
  simp [log, Entry.outcome]

/-- The entry with the index `k` holds the session after the first `k` incidents. -/
theorem history_getElem? (k : Nat) :
    (s.history run)[k]? = (run[k]?).map fun i => ⟨s.after (run.take k), i⟩ := by
  simp [history, trace_getElem?, after, Function.comp_def]

/-- A part of a history is the history of a part of the run. -/
theorem history_split {s : Session} {run : List Incident} {past rest : List Entry}
    (h : s.history run = past ++ rest) :
    ∃ before later, run = before ++ later ∧ s.history before = past ∧
      (s.after before).history later = rest := by
  obtain ⟨_, _, htrace, rfl, rfl⟩ := List.map_eq_append_iff.mp h
  obtain ⟨before, later, rfl, rfl, rfl⟩ := trace_split htrace
  exact ⟨before, later, rfl, rfl, rfl⟩

/-- An entry of a history is an incident of the run with the session after those before it. -/
theorem history_entry_split {s : Session} {run : List Incident} {past rest : List Entry} {e : Entry}
    (h : s.history run = past ++ e :: rest) :
    ∃ before later, run = before ++ e.incident :: later ∧ s.history before = past ∧
      e.before = s.after before := by
  obtain ⟨before, later, rfl, hpast, hlater⟩ := history_split h
  cases later with
  | nil => cases hlater
  | cons i later =>
    obtain ⟨rfl, -⟩ := List.cons.inj hlater
    exact ⟨before, later, rfl, hpast, rfl⟩

theorem mem_history {s : Session} {run : List Incident} {e : Entry} (h : e ∈ s.history run) :
    ∃ before later, run = before ++ e.incident :: later ∧ e.before = s.after before := by
  obtain ⟨past, rest, hsplit⟩ := List.append_of_mem h
  obtain ⟨before, later, hrun, -, hbefore⟩ := history_entry_split hsplit
  exact ⟨before, later, hrun, hbefore⟩

/-- What is told of one kind in a run, where each incident tells at most one thing of it while the
session is as `P` says. -/
theorem filterMap_log {β : Type} {P : Session → Prop} {f : Command → Option β}
    {g : Entry → Option β} (keep : ∀ s i, P s → P (s.undergo i).session)
    (tell : ∀ s i, P s → (s.undergo i).commands.filterMap f = (g ⟨s, i⟩).toList)
    {s : Session} (h : P s) (run : List Incident) :
    (s.log run).filterMap f = (s.history run).filterMap g := by
  induction run generalizing s with
  | nil => rfl
  | cons i run ih =>
    rw [log_cons, history_cons, List.filterMap_append, tell s i h, ih (keep s i h),
      List.filterMap_cons]
    cases g ⟨s, i⟩ <;> rfl

/-- What holds of a fresh session, and is kept by every incident, holds after every run. -/
theorem after_induction {P : Session → Prop} (id : String) (start : P (fresh id))
    (keep : ∀ s i, P s → P (s.undergo i).session) : P ((fresh id).after run) := by
  induction run using List.reverseRecOn with
  | nil => exact start
  | append_singleton run i ih =>
    rw [after_concat]
    exact keep _ i ih

end Session

end Playback
