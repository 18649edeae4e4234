import Playback.Proofs.Polling.Pace
import Playback.Proofs.Session.Finality

/-! When a cast engine is made. A switch to a receiver needs a configuration that allows casting. A
start of playback goes by the backend that the session is at, which was allowed when the session was
moved there and may not be allowed any more. -/

namespace Playback

/-- The configuration in force allows casting. -/
def Session.mayCast (s : Session) : Bool := (s.config.map (·.castEnabled)).getD false

namespace Entry

/-- An engine of the family `backend` is made. -/
def makes (e : Entry) (backend : Backend) : Prop := ∃ n, .create n backend ∈ e.outcome.commands

/-- Playback is moved to `target`. -/
def movesTo (e : Entry) (target : Backend) : Prop :=
  (∃ a, e.incident = .operation (.switchBackend target) a) ∧ e.makes target

/-- A configuration is set that does not allow casting. -/
def forbidsCast (e : Entry) : Prop :=
  ∃ config a, e.incident = .operation (.configure config) a ∧ config.fault? = none ∧
    config.castEnabled = false

end Entry

namespace Session

variable {s : Session}

theorem Switches.mayCast {e : Engine} {video : Video} (h : s.Switches .cast e video) :
    s.mayCast = true := by
  obtain ⟨config, hc, hcast⟩ := h.config
  simp [Session.mayCast, hc, hcast rfl]

/-- An incident leaves the configuration as it is, or sets one that can be used. -/
theorem config_undergo (s : Session) (i : Incident) :
    (s.undergo i).session.config = s.config ∨
      ∃ config a, i = .operation (.configure config) a ∧ config.fault? = none ∧
        (s.undergo i).session.config = some config := by
  have hbeat := s.beat i
  generalize (s.undergo i).session = s' at hbeat
  cases hbeat with
  | keeps steady poller => exact .inl steady.config
  | waits steady poller => exact .inl steady.config
  | configures valid session =>
    subst session
    exact .inr ⟨_, _, rfl, valid, rfl⟩
  | rests config playStarted poller => exact .inl config
  | plays p rested active config playStarted poller => exact .inl config
  | polls steady timer poller => exact .inl steady.config

/-- Casting is allowed after an incident as it was before, unless the incident says otherwise. -/
theorem mayCast_undergo (h : s.mayCast = true) (i : Incident) :
    (s.undergo i).session.mayCast = true ∨ Entry.forbidsCast ⟨s, i⟩ := by
  rcases s.config_undergo i with hc | ⟨config, a, rfl, hvalid, hc⟩
  · left
    rw [mayCast, hc]
    exact h
  · cases hcast : config.castEnabled with
    | true => exact .inl (by simp [mayCast, hc, hcast])
    | false => exact .inr ⟨config, a, rfl, hvalid, hcast⟩

/-- An incident leaves the session at its backend, or moves playback to another one. -/
theorem backend_undergo (s : Session) (i : Incident) :
    (s.undergo i).session.state.backend = s.state.backend ∨
      ∃ target e video, s.Switches target e video ∧ Entry.movesTo ⟨s, i⟩ target ∧
        (s.undergo i).session.state.backend = target := by
  cases s.bearing i with
  | spares hs => exact .inl hs.backend
  | @opens op a config playlist ho =>
    obtain ⟨phase, engine, created, hload⟩ := s.tornDown.load_session a config playlist
    left
    show (s.step a op).session.state.backend = _
    rw [step_opens_session ho, hload]
    rfl
  | @switches target a e video hs =>
    obtain ⟨positions, hr⟩ := s.record_eq a.position
    cases hf : a.createFailure with
    | none =>
      have hstep := switchBackend_created hs hf
      refine .inr ⟨target, e, video, hs, ⟨⟨a, rfl⟩, s.created + 1, ?_⟩, ?_⟩
      · show _ ∈ (s.switchBackend a target).commands
        simp [hstep, issue]
      · show (s.switchBackend a target).session.state.backend = _
        rw [hstep]
        rfl
    | some err =>
      left
      show (s.switchBackend a target).session.state.backend = _
      rw [switchBackend_failed hs hf, hr]
  | release =>
    left
    show s.release.session.state.backend = _
    rw [release_eq]
    rfl
  | exitPip =>
    left
    show s.exitPip.session.state.backend = _
    rw [exitPip_eq]
    dsimp only
    split <;> rfl

/-- An engine is made by a switch to its backend, or by a start of playback at its backend. -/
theorem makes_cases {i : Incident} {backend : Backend} (h : Entry.makes ⟨s, i⟩ backend) :
    (Entry.movesTo ⟨s, i⟩ backend ∧ ∃ e video, s.Switches backend e video) ∨
      Entry.opens ⟨s, i⟩ = true ∧ s.state.backend = backend := by
  have hmakes := h
  obtain ⟨n, hm⟩ := h
  change _ ∈ (s.undergo i).commands at hm
  -- Of these ways only a start and a switch make an engine; the others call the one that is held.
  cases s.bearing i with
  | spares hs => simpa [Command.spares] using hs.commands _ hm
  | @opens op a config playlist ho =>
    change _ ∈ (s.step a op).commands at hm
    refine .inr ⟨Entry.opens_of_opens ho, ?_⟩
    have hload : .create n backend ∈ (s.tornDown.load a config playlist).commands := by
      rw [step_opens ho] at hm
      rcases List.mem_append.mp hm with hm | hm
      · split at hm
        · cases hm
        · unfold toEngine at hm
          cases he : s.engine <;> simp [he] at hm
      · exact hm
    rcases mem_load hload with hm | ⟨n, hm⟩ | hm | ⟨n, hm⟩ <;> cases hm
    rfl
  | @switches target a e video hs =>
    change _ ∈ (s.switchBackend a target).commands at hm
    have htarget : backend = target := by
      cases hf : a.createFailure with
      | none =>
        simp only [switchBackend_created hs hf, issue, List.mem_append, List.mem_cons,
          Command.create.injEq, List.not_mem_nil, or_false, reduceCtorEq, false_or] at hm
        rcases hm with ⟨-, hm⟩ | hm
        · exact hm
        · split at hm <;> simp at hm
      | some err => simp [switchBackend_failed hs hf] at hm
    subst htarget
    exact .inl ⟨⟨⟨a, rfl⟩, hmakes⟩, e, video, hs⟩
  | release =>
    change _ ∈ s.release.commands at hm
    rw [release_eq] at hm
    unfold toEngine at hm
    cases he : s.engine <;> simp [he, issue] at hm
  | exitPip =>
    change _ ∈ s.exitPip.commands at hm
    rw [exitPip_eq] at hm
    unfold toEngine at hm
    cases hp : s.releasePending <;> cases he : s.engine <;> simp [hp, he, issue] at hm

/-- In the history `h` of the session `s` playback has been moved to a receiver while casting was
allowed, and has stayed there. It is allowed still, unless that has been changed since. -/
def CastingSince (h : List Entry) (s : Session) : Prop :=
  ∃ early moved later, h = early ++ moved :: later ∧ moved.movesTo .cast ∧
    moved.before.mayCast = true ∧ (∀ x ∈ later, x.before.state.backend = .cast) ∧
    (s.mayCast = true ∨ ∃ x ∈ later, x.forbidsCast)

theorem CastingSince.undergo {h : List Entry} (hs : CastingSince h s)
    (hb : s.state.backend = .cast) (i : Incident) :
    CastingSince (h ++ [⟨s, i⟩]) (s.undergo i).session := by
  obtain ⟨early, moved, later, rfl, hmoved, hmay, hat, hnow⟩ := hs
  refine ⟨early, moved, later ++ [⟨s, i⟩], by simp, hmoved, hmay, ?_, ?_⟩
  · intro x hx
    rcases List.mem_append.mp hx with hx | hx
    · exact hat x hx
    · rw [List.mem_singleton.mp hx]
      exact hb
  · rcases hnow with hnow | ⟨x, hx, hforbids⟩
    · rcases mayCast_undergo hnow i with hnow | hforbids
      · exact .inl hnow
      · exact .inr ⟨_, by simp, hforbids⟩
    · exact .inr ⟨x, by simp [hx], hforbids⟩

theorem castingSince_after (id : String) (run : List Incident)
    (h : ((fresh id).after run).state.backend = .cast) :
    CastingSince ((fresh id).history run) ((fresh id).after run) := by
  induction run using List.reverseRecOn with
  | nil => cases h
  | append_singleton run i ih =>
    rw [after_concat] at h ⊢
    rw [history_concat]
    rcases ((fresh id).after run).backend_undergo i with hb | ⟨target, e, video, hs, hmoved, hb⟩
    · rw [hb] at h
      exact (ih h).undergo h i
    · -- Playback is moved just now, by a switch, which leaves the configuration alone.
      rw [h] at hb
      subst hb
      refine ⟨_, _, [], rfl, hmoved, hs.mayCast, by simp, .inl ?_⟩
      obtain ⟨a, hi⟩ := hmoved.1
      rcases mayCast_undergo hs.mayCast i with hnow | ⟨config, a', hi', -⟩
      · exact hnow
      · cases hi.symm.trans hi'

/-- A cast engine is made by a switch to a receiver, where casting is allowed, or by a start of
playback in a session that has been moved to a receiver where casting was allowed. It is allowed
still then, unless a configuration has been set since that does not allow it. -/
theorem cast_made (id : String) (run : List Incident) {past rest : List Entry} {e : Entry}
    (h : (fresh id).history run = past ++ e :: rest) (hm : e.makes .cast) :
    e.movesTo .cast ∧ e.before.mayCast = true ∨
      e.opens = true ∧ ∃ early moved later, past = early ++ moved :: later ∧
        moved.movesTo .cast ∧ moved.before.mayCast = true ∧
        (∀ x ∈ later, x.before.state.backend = .cast) ∧
        (e.before.mayCast = true ∨ ∃ x ∈ later, x.forbidsCast) := by
  obtain ⟨before, later, -, rfl, hbefore⟩ := history_entry_split h
  obtain ⟨s, i⟩ := e
  subst hbefore
  rcases makes_cases hm with ⟨hmoves, held, video, hs⟩ | ⟨hopens, hb⟩
  · exact .inl ⟨hmoves, hs.mayCast⟩
  · exact .inr ⟨hopens, castingSince_after id before hb⟩

/-- A run that moves a live stream to a receiver and then stops allowing it. -/
def prohibition : List Incident := relocation none ++ [.operation (.configure {}) {}]

/-- The next video is played on the receiver. -/
theorem cast_made_prohibited :
    let e : Entry := ⟨(fresh "s").after prohibition, .operation (.init [{ id := "b" }]) {}⟩
    e.makes .cast ∧ e.before.mayCast = false ∧
      ∃ moved ∈ (fresh "s").history prohibition, moved.movesTo .cast ∧
        moved.before.mayCast = true := by
  intro e
  have hmakes : e.makes .cast := ⟨3, by decide +kernel⟩
  have hforbidden : e.before.mayCast = false := by decide +kernel
  have hhistory := (fresh "s").history_concat prohibition (.operation (.init [{ id := "b" }]) {})
  refine ⟨hmakes, hforbidden, ?_⟩
  rcases cast_made "s" _ hhistory hmakes with
    ⟨-, hmay⟩ | ⟨-, early, moved, later, hpast, hmoved, hmay, -⟩
  · rw [hforbidden] at hmay
    cases hmay
  · exact ⟨moved, by simp [hpast], hmoved, hmay⟩

/-- A start of playback makes a cast engine where the configuration in force does not allow
casting. -/
theorem forbidden_cast_engine :
    let s := (fresh "s").after prohibition
    s.config = some {} ∧ s.mayCast = false ∧
      (s.step {} (.init [{ id := "b" }])).commands =
        [.engine 2 .release, .create 3 .cast, .engine 3 (.load { id := "b" } 0)] := by
  decide +kernel

end Session
end Playback
