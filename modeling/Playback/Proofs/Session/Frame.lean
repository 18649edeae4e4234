import Playback.Proofs.Session.Outcome
import Playback.Proofs.Session.Run

/-! What the incidents of a run leave alone. Four kinds of operations can bear on the engine: a
start of playback, a switch to another backend, a release, and the end of Picture-in-Picture. Every
other incident spares it, and so do the refusals of these. How far a session has come is changed by
signals, starts of playback and releases alone. -/

namespace Playback

/-- The entry ends all that is played: a release, or an operation that starts playback and is past
its checks. -/
def Entry.clears (e : Entry) : Prop :=
  ∃ op a, e.incident = .operation op a ∧
    (op = .release ∨ ∃ config playlist, e.before.Opens op config playlist)

/-- Only a client ends what is played. -/
theorem Entry.not_clears {e : Entry} (h : e.incident.isReport = true) : ¬e.clears := by
  obtain ⟨s, i⟩ := e
  rintro ⟨op, a, rfl, rfl | ⟨config, playlist, ho⟩⟩
  · cases h
  · obtain ⟨videos, hv, -⟩ := Option.bind_eq_some_iff.mp ho.playlist
    cases op with
    | signal | handoff => cases hv
    | _ => cases h

theorem Session.Opens.clears {s : Session} {op : Operation} {config : Config} {playlist : Playlist}
    (ho : s.Opens op config playlist) (a : Answers) : Entry.clears ⟨s, .operation op a⟩ :=
  ⟨op, a, rfl, .inr ⟨config, playlist, ho⟩⟩

/-- A start of playback that does not end all that is played is refused. -/
theorem Session.starts_refused {s : Session} {op : Operation} {a : Answers}
    (hop : op.starts = true) (hc : ¬Entry.clears ⟨s, .operation op a⟩) :
    ∃ e, s.step a op = s.refuse e := by
  refine (starts_cases a s hop).resolve_right ?_
  rintro ⟨config, playlist, ho⟩
  exact hc (ho.clears a)

/-- Whether a session is in Picture-in-Picture after the incident, where it is before if `now`. -/
def Incident.inPip (i : Incident) (now : Bool) : Bool :=
  match i with
  | .operation .enterPip _ => true
  | .operation .exitPip _ => false
  | _ => now

/-- The command makes no engine, releases none, and is for no other engine than `held`. -/
def Command.spares (held : Option Engine) : Command → Bool
  | .create _ _ | .createFailed _ => false
  | .engine n c => held.map (·.serial) = some n && c ≠ .release
  | _ => true

/-- No phase but the first one is left for the first one by itself. -/
theorem Phase.move_ne_idle {p target : Phase} (hp : p ≠ .idle) (ht : target ≠ .idle) :
    p.move target ≠ .idle := by
  unfold move
  split
  · exact ht
  · exact hp

/-- No signal means that what is loaded is given up. -/
theorem Circumstances.classify_phase (c : Circumstances) (signal : Signal) :
    (c.classify signal).delta.phase ≠ some .idle := by
  cases signal with
  | engine signal => cases signal with
    | playStarted position =>
      simp only [classify, classifyEngine]
      split <;> simp
    | percentWatched percent =>
      simp only [classify, classifyEngine]
      split <;> simp
    | adCompleted percent =>
      simp only [classify, classifyEngine]
      split <;> simp
    | _ => simp [classify, classifyEngine]
  | ads signal => cases signal with
    | paused ad | resumed ad =>
      simp only [classify, classifyAds]
      split <;> simp
    | _ => simp [classify, classifyAds]

namespace Session

/-- What an outcome leaves alone that spares the engine of `s` and what is loaded into it. -/
structure Spares (s : Session) (o : Outcome) : Prop where
  engine : o.session.engine = s.engine
  pending : o.session.releasePending = s.releasePending
  created : o.session.created = s.created
  backend : o.session.state.backend = s.state.backend
  loaded : s.state.phase ≠ .idle → o.session.state.phase ≠ .idle
  configured : s.config.isSome → o.session.config.isSome
  listed : s.playlist.isSome → o.session.playlist.isSome
  commands : ∀ c ∈ o.commands, c.spares s.engine

namespace Spares

variable {s : Session} {o : Outcome}

/-- Nothing but the error is new. -/
theorem same (s : Session) (e : Option Error) : Spares s ⟨s, [], e⟩ :=
  ⟨rfl, rfl, rfl, rfl, fun h => h, fun h => h, fun h => h, by simp⟩

theorem andThen (h : Spares s o) {f : Session → Outcome} (hf : Spares o.session (f o.session)) :
    Spares s (o.andThen f) := by
  unfold Outcome.andThen
  split
  · exact h
  · refine ⟨hf.engine.trans h.engine, hf.pending.trans h.pending, hf.created.trans h.created,
      hf.backend.trans h.backend, fun hl => hf.loaded (h.loaded hl),
      fun hc => hf.configured (h.configured hc), fun hl => hf.listed (h.listed hl), fun c hc => ?_⟩
    rcases List.mem_append.mp hc with hc | hc
    · exact h.commands c hc
    · rw [← h.engine]
      exact hf.commands c hc

/-- Nothing changes, and what is told spares the engine. -/
theorem tells {commands : List Command} (h : ∀ c ∈ commands, c.spares s.engine) :
    Spares s (s.issue commands) :=
  ⟨rfl, rfl, rfl, rfl, fun h => h, fun h => h, fun h => h, h⟩

theorem isActive (h : Spares s o) : o.session.isActive = s.isActive := by
  simp [Session.isActive, h.engine, h.pending]

end Spares

theorem toEngine_spares (s : Session) {c : EngineCommand} (hc : c ≠ .release) :
    ∀ d ∈ s.toEngine c, d.spares s.engine := by
  unfold toEngine
  cases s.engine <;> simp [Command.spares, hc]

theorem tell_spares (s : Session) {c : EngineCommand} (hc : c ≠ .release) :
    Spares s (s.tell c) := by
  rw [tell_eq]
  exact .tells (s.toEngine_spares hc)

theorem control_spares (s : Session) {c : EngineCommand} (hc : c ≠ .release) :
    Spares s (s.control c) := by
  unfold control
  split
  · exact s.tell_spares hc
  · exact .same s _

theorem configure_spares (a : Answers) (config : Config) (s : Session) :
    Spares s (s.configure a config) := by
  unfold configure
  split
  · exact .same s _
  · exact ⟨rfl, rfl, rfl, rfl, fun h => h, fun _ => rfl, fun h => h, by simp [issue]⟩

theorem addVideo_spares (video : Video) (s : Session) : Spares s (s.addVideo video) := by
  unfold addVideo
  split
  · exact ⟨rfl, rfl, rfl, rfl, fun h => h, fun h => h, fun _ => rfl, by simp [issue]⟩
  · exact .same s _

theorem pause_spares (a : Answers) (s : Session) : Spares s (s.pause a) := by
  unfold pause
  split
  · obtain ⟨positions, hr⟩ := s.record_eq a.position
    rw [hr]
    have h : Spares s (issue { s with positions } []) :=
      ⟨rfl, rfl, rfl, rfl, fun h => h, fun h => h, fun h => h, by simp [issue]⟩
    exact h.andThen (control_spares _ (by decide))
  · exact .same s _

theorem setSticky_spares (sticky : Bool) (s : Session) : Spares s (s.setSticky sticky) := by
  unfold setSticky
  split
  · exact ⟨rfl, rfl, rfl, rfl, fun h => h, fun h => h, fun h => h, by simp [issue]⟩
  · exact .same s _

theorem enterPip_spares (s : Session) : Spares s s.enterPip := by
  refine ⟨rfl, rfl, rfl, rfl, fun h => h, fun h => h, fun h => h, fun c hc => ?_⟩
  simp only [enterPip, issue] at hc
  split at hc
  · simp_all [Command.spares]
  · simp at hc

theorem handleFailure_spares (f : Failure) (s : Session) : Spares s (s.handleFailure f) := by
  unfold handleFailure
  split
  · exact (s.tell_spares (by decide)).andThen (tell_spares _ (by decide))
  · exact .tells (by simp [Command.spares])

theorem resolution_spares (a : Answers) (config : Config) (video : Video) (held : Option Engine) :
    ∀ c ∈ (Resolution.of a config video).commands, c.spares held := by
  intro c hc
  rw [mem_resolution hc]
  trivial

theorem advance_spares (a : Answers) (s : Session) : Spares s (s.advance a) := by
  unfold advance
  split
  · rename_i config p hc hp
    split
    · exact ⟨rfl, rfl, rfl, rfl, fun h => h, fun h => h, fun _ => rfl,
        by simp [issue, Command.spares]⟩
    · refine Spares.andThen (.andThen (.andThen ?_ (tell_spares _ (by simp)))
        (tell_spares _ (by decide))) ?_
      · refine ⟨rfl, rfl, rfl, rfl, fun h => h, fun h => h, fun _ => rfl, fun c hc => ?_⟩
        simp only [issue, List.mem_append, List.mem_map] at hc
        rcases hc with hc | ⟨e, -, rfl⟩
        · exact resolution_spares a config _ _ c hc
        · rfl
      · have hmove : ∀ phase : Phase, phase ≠ .idle → (phase.move .ready).move .playing ≠ .idle :=
          fun _ h => Phase.move_ne_idle (Phase.move_ne_idle h (by decide)) (by decide)
        dsimp only
        split <;> exact ⟨rfl, rfl, rfl, rfl, hmove _, fun h => h, fun h => h, by simp [issue]⟩
  · exact .same s _

theorem changeState_loaded {d : Delta} (hd : d.phase ≠ some .idle) {s : State}
    (h : s.phase ≠ .idle) : (changeState d s).phase ≠ .idle := by
  unfold changeState
  cases hp : d.phase with
  | none => exact h
  | some target => exact Phase.move_ne_idle h fun ht => hd (by rw [hp, ht])

theorem change_spares (a : Answers) {d : Delta} (hd : d.phase ≠ some .idle) (s : Session) :
    Spares s ((s.change a d).issue []) := by
  rw [change_eq]
  exact ⟨rfl, rfl, rfl, changeState_backend d s.state, changeState_loaded hd, fun h => h,
    fun h => h, by simp [issue]⟩

theorem apply_spares (a : Answers) {d : Delta} (hd : d.phase ≠ some .idle) (s : Session) :
    Spares s (s.apply a d) := by
  unfold apply
  refine .andThen (.andThen (change_spares a hd s) ?_) ?_
  · cases d.failure with
    | none => exact .same _ _
    | some f => exact handleFailure_spares f _
  · cases d.advances with
    | false => exact .same _ _
    | true => exact advance_spares a _

theorem handleSignal_spares (a : Answers) (signal : Signal) (s : Session) :
    Spares s (s.handleSignal a signal) := by
  unfold handleSignal
  split
  · rename_i video _ _
    have h : ∀ event : Option Event, Spares s (s.issue (event.toList.map .event)) := fun event =>
      .tells (by simp [Command.spares])
    exact (h _).andThen (apply_spares a (Circumstances.classify_phase _ signal) _)
  · exact .same s _

theorem handleHandoff_spares (a : Answers) (h : Handoff) (s : Session) :
    Spares s (s.handleHandoff a h) := by
  unfold handleHandoff
  cases h <;> dsimp only <;> split
  · exact ⟨rfl, rfl, rfl, rfl, fun h => h, fun h => h, fun h => h, by simp [issue, Command.spares]⟩
  · exact .same s _
  · exact ⟨rfl, rfl, rfl, rfl, fun h => h, fun h => h, fun h => h, by simp [issue, Command.spares]⟩
  · exact .same s _

/-- How an incident bears on the engine. -/
inductive Bearing (s : Session) : Incident → Prop where
  | spares {i : Incident} (h : Spares s (s.undergo i)) : Bearing s i
  | opens {op : Operation} {a : Answers} {config : Config} {playlist : Playlist}
      (h : s.Opens op config playlist) : Bearing s (.operation op a)
  | switches {target : Backend} {a : Answers} {e : Engine} {video : Video}
      (h : s.Switches target e video) : Bearing s (.operation (.switchBackend target) a)
  | release {a : Answers} : Bearing s (.operation .release a)
  | exitPip {a : Answers} : Bearing s (.operation .exitPip a)

/-- Every incident bears on the engine in one of these ways. -/
theorem bearing (s : Session) (i : Incident) : Bearing s i := by
  cases i with
  | wait limit =>
    exact .spares ⟨rfl, rfl, rfl, rfl, fun h => h, fun h => h, fun h => h, by simp [undergo, issue]⟩
  | operation op a =>
    have hstarts : op.starts = true → Bearing s (.operation op a) := by
      intro hop
      rcases starts_cases a s hop with ⟨e, he⟩ | ⟨config, playlist, ho⟩
      · refine .spares ?_
        change Spares s (s.step a op)
        rw [he]
        exact .same s _
      · exact .opens ho
    cases op with
    | configure config => exact .spares (configure_spares a config s)
    | init | initWithAds => exact hstarts rfl
    | addVideo video => exact .spares (addVideo_spares video s)
    | play => exact .spares (control_spares s (by decide))
    | pause => exact .spares (pause_spares a s)
    | seek position => exact .spares (control_spares s (by simp))
    | setSticky sticky => exact .spares (setSticky_spares sticky s)
    | switchBackend target =>
      rcases switchBackend_cases a target s with ⟨err, h⟩ | ⟨e, video, h⟩
      · refine .spares ?_
        change Spares s (s.switchBackend a target)
        rw [h]
        exact .same s err
      · exact .switches h
    | release => exact .release
    | enterPip => exact .spares s.enterPip_spares
    | exitPip => exact .exitPip
    | recordPosition id position =>
      exact .spares ⟨rfl, rfl, rfl, rfl, fun h => h, fun h => h, fun h => h,
        by simp [undergo, step, recordPosition, issue]⟩
    | clearPosition id =>
      exact .spares ⟨rfl, rfl, rfl, rfl, fun h => h, fun h => h, fun h => h,
        by simp [undergo, step, clearPosition, issue]⟩
    | signal signal => exact .spares (handleSignal_spares a signal s)
    | handoff h => exact .spares (handleHandoff_spares a h s)

theorem report_spares (s : Session) {i : Incident} (hi : i.isReport = true) :
    Spares s (s.undergo i) := by
  cases i with
  | wait limit =>
    exact ⟨rfl, rfl, rfl, rfl, fun h => h, fun h => h, fun h => h, by simp [undergo, issue]⟩
  | operation op a => cases op with
    | signal signal => exact handleSignal_spares a signal s
    | handoff h => exact handleHandoff_spares a h s
    | _ => cases hi

/-- Nothing but a signal, a release or a start of playback changes how far a session has come. -/
theorem state_kept (s : Session) {i : Incident} (hn : ∀ signal a, i ≠ .operation (.signal signal) a)
    (hc : ¬Entry.clears ⟨s, i⟩) :
    ∃ backend sticky, (s.undergo i).session.state =
      { s.state with backend, sticky, inPip := i.inPip s.state.inPip } := by
  have hsame : ∃ backend sticky, s.state =
      { s.state with backend, sticky, inPip := s.state.inPip } := ⟨_, _, rfl⟩
  cases i with
  | wait limit => exact hsame
  | operation op a =>
    have hstarts : op.starts = true → (s.step a op).session.state = s.state := by
      intro hop
      obtain ⟨e, he⟩ := starts_refused hop hc
      rw [he]
      rfl
    show ∃ backend sticky, (s.step a op).session.state = _
    cases op with
    | init | initWithAds => exact ⟨_, _, hstarts rfl⟩
    | release => exact absurd ⟨.release, a, rfl, .inl rfl⟩ hc
    | signal signal => exact absurd rfl (hn signal a)
    | configure config =>
      simp only [step, configure]
      split <;> exact hsame
    | addVideo video =>
      simp only [step, addVideo]
      split <;> exact hsame
    | play | seek =>
      simp only [step, play, seek, control_session]
      exact hsame
    | pause =>
      obtain ⟨positions, hr⟩ := s.record_eq a.position
      simp only [step, pause]
      split
      · rw [control_session, hr]
        exact hsame
      · exact hsame
    | setSticky sticky =>
      simp only [step, setSticky]
      split
      · exact ⟨_, _, rfl⟩
      · exact hsame
    | switchBackend target =>
      obtain ⟨positions, hr⟩ := s.record_eq a.position
      simp only [step]
      rcases switchBackend_cases a target s with ⟨err, h⟩ | ⟨e, video, h⟩
      · rw [h]
        exact hsame
      · cases hf : a.createFailure with
        | none =>
          rw [switchBackend_created h hf]
          exact ⟨_, _, rfl⟩
        | some err =>
          rw [switchBackend_failed h hf, hr]
          exact hsame
    | exitPip =>
      simp only [step, exitPip_eq]
      split <;> exact ⟨_, _, rfl⟩
    | enterPip => exact ⟨_, _, rfl⟩
    | recordPosition | clearPosition => exact hsame
    | handoff handoff =>
      simp only [step, handleHandoff]
      cases handoff <;> dsimp only <;> split <;> exact hsame

theorem changeState_inPip (d : Delta) (s : State) : (changeState d s).inPip = s.inPip := by
  unfold changeState
  cases d.phase <;> rfl

theorem advance_inPip (a : Answers) (s : Session) :
    (s.advance a).session.state.inPip = s.state.inPip := by
  cases hc : s.config with
  | none =>
    rw [advance_none (.inl hc)]
    rfl
  | some config => cases hp : s.playlist with
    | none =>
      rw [advance_none (.inr hp)]
      rfl
    | some playlist => cases hn : playlist.next? with
      | none =>
        rw [advance_last hc hp hn]
        rfl
      | some next =>
        rw [advance_next hc hp hn]
        rfl

theorem handleSignal_inPip (a : Answers) (signal : Signal) (s : Session) :
    (s.handleSignal a signal).session.state.inPip = s.state.inPip := by
  unfold handleSignal
  split
  · simp only [issue, Outcome.andThen_ok, apply_eq]
    split
    · rw [advance_inPip, change_eq]
      exact changeState_inPip _ _
    · rw [change_eq]
      exact changeState_inPip _ _
  · rfl

/-- Only the calls for it begin and end Picture-in-Picture. -/
theorem inPip_undergo (s : Session) (i : Incident) :
    (s.undergo i).session.state.inPip = i.inPip s.state.inPip := by
  by_cases hsignal : ∃ signal a, i = .operation (.signal signal) a
  · obtain ⟨signal, a, rfl⟩ := hsignal
    exact handleSignal_inPip a signal s
  by_cases hc : Entry.clears ⟨s, i⟩
  · obtain ⟨op, a, rfl, rfl | ⟨config, playlist, ho⟩⟩ := hc
    · show s.release.session.state.inPip = s.state.inPip
      rw [release_eq]
      rfl
    · have hpip : Incident.inPip (.operation op a) s.state.inPip = s.state.inPip := by
        obtain ⟨videos, hv, -⟩ := Option.bind_eq_some_iff.mp ho.playlist
        cases op <;> first | rfl | cases hv
      obtain ⟨phase, engine, created, hload⟩ := s.tornDown.load_session a config playlist
      show (s.step a op).session.state.inPip = _
      rw [hpip, step_opens_session ho, hload]
      rfl
  · obtain ⟨backend, sticky, hstate⟩ :=
      s.state_kept (fun signal a hi => hsignal ⟨signal, a, hi⟩) hc
    rw [hstate]

end Session
end Playback
