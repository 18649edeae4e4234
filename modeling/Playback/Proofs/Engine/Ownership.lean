import Playback.Proofs.Engine.Roster
import Playback.Proofs.Session.Coherent

/-! A session owns its engines: at every moment of a run at most one is live, each is loaded first
and released once at most, and when the session has ended none is left. The proof reads the log of a
run with a roster, which stays at what the session holds. -/

namespace Playback.Session

variable {s : Session}

/-- The roster that the session stands for. -/
def roster (s : Session) : Roster :=
  ⟨s.created, match s.engine with
    | some e => .loaded e.backend
    | none => .released⟩

/-- A command that spares the held engine leaves the roster where it is. -/
theorem next_spares (h : Coherent s) {c : Command} (hc : c.spares s.engine) :
    s.roster.next c = some s.roster := by
  cases c with
  | create _ _ | createFailed _ => cases hc
  | engine n d =>
    simp only [Command.spares, Bool.and_eq_true, decide_eq_true_eq, Option.map_eq_some_iff] at hc
    obtain ⟨⟨e, he, rfl⟩, hd⟩ := hc
    rw [h.serial e he]
    cases d <;> simp_all [Roster.next, roster]
  | _ => rfl

theorem read_spares (h : Coherent s) (log : List Command) (hl : ∀ c ∈ log, c.spares s.engine) :
    s.roster.read log = some s.roster := by
  induction log with
  | nil => rfl
  | cons c log ih =>
    rw [Roster.read_cons, next_spares h (hl c (by simp))]
    exact ih fun d hd => hl d (by simp [hd])

theorem read_release (h : Coherent s) :
    s.roster.read (s.toEngine .release) = some ⟨s.created, .released⟩ := by
  cases he : s.engine with
  | none => simp [toEngine, roster, he]
  | some e => simp [toEngine, roster, he, h.serial e he, Roster.next]

theorem read_tornDown (h : Coherent s) :
    s.roster.read (if s.state.inPip then [] else s.toEngine .release) = some s.tornDown.roster := by
  cases hp : s.state.inPip with
  | true => simp [tornDown, roster, hp]
  | false =>
    simp only [Bool.false_eq_true, ↓reduceIte, read_release h]
    simp [tornDown, roster, hp]

theorem read_load {config : Config} (h : Coherent s) (a : Answers) (playlist : Playlist) :
    s.roster.read (s.load a config playlist).commands =
      some (s.load a config playlist).session.roster := by
  have hr := read_spares h _ (resolution_spares a config playlist.current s.engine)
  cases he : s.engine with
  | some e =>
    simp only [load_held he, issue, Roster.read_append, hr]
    simp [roster, he, h.serial e he, Roster.next, firstLoad, takeUp]
  | none =>
    cases hf : a.createFailure with
    | none =>
      simp only [load_created he hf, issue, Roster.read_append, hr]
      simp [roster, he, Roster.next, firstLoad]
    | some err =>
      simp only [load_failed he hf, Roster.read_append, hr]
      simp [Roster.next, takeUp, roster]

theorem read_undergo (h : Coherent s) (i : Incident) :
    s.roster.read (s.undergo i).commands = some (s.undergo i).session.roster := by
  cases s.bearing i with
  | spares hs =>
    rw [read_spares h _ hs.commands]
    simp [roster, hs.created, hs.engine]
  | @opens op a config playlist ho =>
    change s.roster.read (s.step a op).commands = some (s.step a op).session.roster
    rw [step_opens ho, Roster.read_append, read_tornDown h]
    exact read_load (h.tornDown (by simp [ho.config])) a playlist
  | @switches target a e video hs =>
    change s.roster.read (s.switchBackend a target).commands =
      some (s.switchBackend a target).session.roster
    obtain ⟨positions, hr⟩ := s.record_eq a.position
    have hserial := h.serial e hs.engine
    cases hf : a.createFailure with
    | none =>
      rw [switchBackend_created hs hf, hr]
      cases hp : s.state.isPlaying <;>
        simp [issue, roster, hs.engine, hserial, Roster.next]
    | some err =>
      rw [switchBackend_failed hs hf, hr]
      simp [roster, hs.engine, hserial, Roster.next]
  | release =>
    change s.roster.read s.release.commands = some s.release.session.roster
    rw [release_eq]
    exact read_tornDown h
  | exitPip =>
    change s.roster.read s.exitPip.commands = some s.exitPip.session.roster
    rw [exitPip_eq]
    cases hp : s.releasePending with
    | true =>
      simp only [issue, ↓reduceIte, Roster.read_cons]
      exact read_release h
    | false => simp [issue, Roster.next, roster]

/-- A roster reads the log of a run, and ends at what the session holds. -/
theorem read_log (id : String) (run : List Incident) :
    Roster.read {} ((fresh id).log run) = some ((fresh id).after run).roster := by
  induction run using List.reverseRecOn with
  | nil => rfl
  | append_singleton run i ih =>
    rw [log_concat, Roster.read_append, ih, after_concat]
    exact read_undergo (coherent_after id run) i

theorem read_drop (h : Coherent s) :
    s.roster.read s.drop.commands = some ⟨s.created, .released⟩ := by
  unfold drop
  rw [releaseEngine_eq]
  exact read_release h

/-- A session without an engine does not look at a position. -/
theorem step_position (he : s.engine = none) (a : Answers) (op : Operation) (position : Int64) :
    s.step { a with position } op = s.step a op := by
  have ha : s.isActive = false := by simp [isActive, he]
  cases op with
  | pause => simp [step, pause, he]
  | switchBackend target => simp [step, switchBackend, ha]
  | handoff h => cases h <;> simp [step, handleHandoff, startPolling, he]
  | _ => rfl

/-- What a session and all that it has told make sure of about its engines. -/
structure Owned (s : Session) (log : List Command) : Prop where
  orderly : Orderly log
  /-- The engine that is live is the one that is held. -/
  live : ∀ n, Live n log ↔ ∃ e, s.engine = some e ∧ e.serial = n
  /-- It has been made for the backend that the session is on. -/
  backend : ∀ e, s.engine = some e →
    e.backend = s.state.backend ∧ .create e.serial s.state.backend ∈ log
  /-- No engine is asked for its position but the one that is held. -/
  position : s.engine = none → ∀ a op position, s.step { a with position } op = s.step a op
  /-- Engines are still used in order when the session ends. -/
  ended : Orderly (log ++ s.drop.commands)
  /-- When the session has ended, every engine has been released once. -/
  released : ∀ n ∈ made (log ++ s.drop.commands),
    (calls n (log ++ s.drop.commands)).count .release = 1

/-- A session owns its engines in every run, whichever engines cannot be made. The run of a session
that has a task of its own ends with a release, before the session itself ends. -/
theorem engines_owned (id : String) (run : List Incident) :
    Owned ((fresh id).after run) ((fresh id).log run) := by
  have hs := coherent_after id run
  have hread := read_log id run
  generalize (fresh id).after run = s at hs hread
  generalize (fresh id).log run = log at hread
  have hlog := Roster.sumsUp_of_read hread
  have hdrop : Roster.read {} (log ++ s.drop.commands) = some ⟨s.created, .released⟩ := by
    rw [Roster.read_append, hread]
    exact read_drop hs
  refine ⟨Roster.orderly_of_read hread fun backend => ?_, fun n => ?_, fun e he => ?_,
    step_position, Roster.orderly_of_read hdrop (by simp),
    fun n => (Roster.sumsUp_of_read hdrop).count_release rfl⟩
  · cases he : s.engine <;> simp [roster, he]
  · rw [hlog.live_iff]
    cases he : s.engine with
    | none => simp [roster, he]
    | some e => simp [roster, he, hs.serial e he, eq_comm]
  · have hb := hs.backend e he
    refine ⟨hb, ?_⟩
    rw [hs.serial e he, ← hb]
    exact hlog.backend e.backend (.inr (by simp [roster, he]))

end Playback.Session
