import Playback.Proofs.Session.Coherent

/-! What is left of playback in a session that is not active: nothing, unless a switch to another
backend has lost the engine on the way. -/

namespace Playback

/-- The entry is a switch that has released the engine and got no other one. -/
def Entry.loses (e : Entry) : Prop :=
  ∃ target a, e.incident = .operation (.switchBackend target) a ∧
    .createFailed target ∈ e.outcome.commands

/-- The command shows or hides the chrome. -/
def Command.isChrome (c : Command) : Bool := c matches .chrome _

/-- A switch has lost the engine, and nothing has cleared the session since. -/
def Stranded (h : List Entry) : Prop := Persists Entry.loses Entry.clears h

theorem not_stranded_nil : ¬Stranded [] := not_persists_nil

theorem stranded_concat {h : List Entry} {e : Entry} :
    Stranded (h ++ [e]) ↔ e.loses ∨ Stranded h ∧ ¬e.clears := persists_concat

namespace Session

/-- What a client sees of a session in which nothing goes on. -/
structure Quiescent (s : Session) : Prop where
  phase : s.state.phase = .idle
  isPlaying : s.state.isPlaying = false
  playStarted : s.state.playStarted = false
  sticky : s.state.sticky = false
  isPolling : s.isPolling = false

/-- Nothing is loaded, and there is no timer. -/
structure Still (s : Session) : Prop where
  phase : s.state.phase = .idle
  playStarted : s.state.playStarted = false
  sticky : s.state.sticky = false
  timer : s.poller.timer = none

variable {s : Session}

theorem Still.quiescent (h : Still s) : Quiescent s := by
  refine ⟨h.phase, ?_, h.playStarted, h.sticky, ?_⟩
  · simp [State.isPlaying, h.phase]
  · simp [isPolling, Poller.isRunning, h.timer]

theorem still_tornDown (s : Session) : Still s.tornDown := ⟨rfl, rfl, rfl, rfl⟩

/-- A release leaves a session that is not active, now or once Picture-in-Picture has ended. -/
theorem release_clears (s : Session) :
    s.release.session.isActive = false ∧ Still s.release.session := by
  rw [release_eq]
  refine ⟨?_, rfl, rfl, rfl, rfl⟩
  cases hp : s.state.inPip <;> cases he : s.engine <;> simp [isActive, issue, tornDown, hp, he]

/-- A load into a session where nothing goes on leaves one that plays, or else one where still
nothing goes on. -/
theorem load_clears {config : Config} (h : Still s) (hp : s.releasePending = false) (a : Answers)
    (playlist : Playlist) :
    let s' := (s.load a config playlist).session
    s'.isActive = true ∧ s'.state.phase ≠ .idle ∨ s'.isActive = false ∧ Still s' := by
  have hready : s.state.phase.move .ready ≠ .idle := by
    rw [h.phase]
    decide
  cases he : s.engine with
  | some e =>
    rw [load_held he]
    refine .inl ⟨?_, hready⟩
    simp [isActive, issue, takeUp, he, hp]
  | none =>
    cases hf : a.createFailure with
    | none =>
      rw [load_created he hf]
      refine .inl ⟨?_, hready⟩
      simp [isActive, issue, takeUp, hp]
    | some err =>
      rw [load_failed he hf]
      refine .inr ⟨?_, h.phase, h.playStarted, h.sticky, h.timer⟩
      simp [isActive, takeUp, he]

/-- What an incident leaves as it was in a session where nothing goes on. -/
structure Lingers (s : Session) (o : Outcome) : Prop where
  state : o.session.state = { s.state with inPip := o.session.state.inPip }
  adSession : o.session.adSession = s.adSession
  timer : o.session.poller.timer = none
  active : o.session.isActive = false
  /-- The engine may be told its release, which it then need not be told any more. -/
  told : o.commands.filter (!·.isChrome) ++ o.session.toEngine .release = s.toEngine .release

theorem Lingers.same (ha : s.isActive = false) (ht : s.poller.timer = none) (e : Option Error) :
    Lingers s ⟨s, [], e⟩ := ⟨rfl, rfl, ht, ha, rfl⟩

theorem Lingers.of_chrome {config : Option Config} {positions : Positions} {p : Poller}
    {inPip : Bool} {commands : List Command} (e : Option Error) (ha : s.isActive = false)
    (ht : p.timer = none) (hc : commands.filter (!·.isChrome) = []) :
    Lingers s ⟨{ s with config, positions, poller := p, state := { s.state with inPip } },
      commands, e⟩ :=
  ⟨rfl, rfl, ht, ha, by rw [hc]; rfl⟩

/-- Where nothing goes on, nothing but the start of playback brings anything up. -/
theorem lingers (ha : s.isActive = false) (ht : s.poller.timer = none) {i : Incident}
    (hc : ¬Entry.clears ⟨s, i⟩) : Lingers s (s.undergo i) := by
  cases i with
  | wait limit =>
    have hp : (s.poller.elapse limit true).1.timer = none := by simp [Poller.elapse, ht]
    exact .of_chrome none ha hp rfl
  | operation op a =>
    change Lingers s (s.step a op)
    have hstarts : op.starts = true → Lingers s (s.step a op) := by
      intro hop
      obtain ⟨e, he⟩ := starts_refused hop hc
      rw [he]
      exact .same ha ht _
    -- An inactive session refuses whatever is about playback and ignores what comes in.
    cases op with
    | configure config =>
      simp only [step, configure]
      split
      · exact .same ha ht _
      · refine .of_chrome none ha ?_ rfl
        simp [Poller.setPeriod, Poller.isRunning, ht]
    | init | initWithAds => exact hstarts rfl
    | addVideo | play | seek | setSticky =>
      simpa [step, addVideo, play, seek, setSticky, control, ha, refuse] using .same ha ht _
    | pause =>
      simp only [step, pause]
      split
      · obtain ⟨positions, hr⟩ := s.record_eq a.position
        have ha' : isActive { s with positions } = false := ha
        rw [hr, control, ha']
        exact .of_chrome _ ha ht rfl
      · exact .same ha ht _
    | switchBackend target =>
      rcases switchBackend_cases a target s with ⟨err, hs⟩ | ⟨e, video, hs⟩
      · simpa [step, hs] using .same ha ht err
      · simp [hs.isActive] at ha
    | release => exact absurd ⟨.release, a, rfl, .inl rfl⟩ hc
    | enterPip =>
      refine .of_chrome none ha ht ?_
      split <;> rfl
    | exitPip =>
      simp only [step, exitPip_eq]
      split
      · refine ⟨rfl, rfl, ht, rfl, ?_⟩
        unfold toEngine
        cases s.engine <;> rfl
      · exact .of_chrome none ha ht rfl
    | recordPosition | clearPosition => exact .of_chrome none ha ht rfl
    | signal signal => simpa [step, handleSignal, ha, issue] using .same ha ht none
    | handoff handoff =>
      have haccepts : ∀ g, s.poller.accepts g = false := by simp [Poller.accepts, ht]
      cases handoff <;> simpa [step, handleHandoff, haccepts, issue] using .same ha ht none

theorem Still.undergo (h : Still s) (ha : s.isActive = false) {i : Incident}
    (hc : ¬Entry.clears ⟨s, i⟩) : Still (s.undergo i).session := by
  have hl := lingers ha h.timer hc
  refine ⟨?_, ?_, ?_, hl.timer⟩ <;> rw [hl.state]
  · exact h.phase
  · exact h.playStarted
  · exact h.sticky

theorem exitPip_isActive (s : Session) : s.exitPip.session.isActive = s.isActive := by
  rw [exitPip_eq]
  cases hp : s.releasePending <;> simp [isActive, issue, hp]

/-- What a session shows of whether it is stranded, where it is not active. -/
structure Settled (s : Session) (stranded : Prop) : Prop where
  active : s.isActive = true → s.state.phase ≠ .idle ∧ ¬stranded
  still : s.isActive = false → ¬stranded → Still s
  stranded : stranded → s.state.phase ≠ .idle

namespace Settled

theorem fresh (id : String) : Settled (fresh id) (Stranded []) :=
  ⟨fun h => (by cases h), fun _ _ => ⟨rfl, rfl, rfl, rfl⟩, fun h => absurd h not_stranded_nil⟩

theorem of_cleared {stranded : Prop} (hn : ¬stranded)
    (h : s.isActive = true ∧ s.state.phase ≠ .idle ∨ s.isActive = false ∧ Still s) :
    Settled s stranded := by
  rcases h with ⟨ha, hp⟩ | ⟨ha, hs⟩
  · exact ⟨fun _ => ⟨hp, hn⟩, fun hf => (by simp [ha] at hf), fun h => absurd h hn⟩
  · exact ⟨fun ht => (by simp [ha] at ht), fun _ _ => hs, fun h => absurd h hn⟩

theorem kept {stranded : Prop} {s' : Session} (h : Settled s stranded)
    (hactive : s'.isActive = s.isActive) (hphase : s.state.phase ≠ .idle → s'.state.phase ≠ .idle)
    (hstill : s.isActive = false → Still s → Still s') : Settled s' stranded := by
  refine ⟨fun ha => ?_, fun ha hn => ?_, fun hst => hphase (h.stranded hst)⟩
  · rw [hactive] at ha
    exact ⟨hphase (h.active ha).1, (h.active ha).2⟩
  · rw [hactive] at ha
    exact hstill ha (h.still ha hn)

theorem clears {stranded : Prop} {i : Incident} (hc : Entry.clears ⟨s, i⟩) :
    Settled (s.undergo i).session
      (Entry.loses ⟨s, i⟩ ∨ stranded ∧ ¬Entry.clears ⟨s, i⟩) := by
  have hcleared := hc
  obtain ⟨op, a, rfl, hop⟩ := hcleared
  refine of_cleared ?_ ?_
  · rintro (⟨target, a', hi, -⟩ | ⟨-, hn⟩)
    · cases hi
      rcases hop with h | ⟨config, playlist, ho⟩
      · cases h
      · simpa [Operation.videos?] using ho.playlist
    · exact hn hc
  · rcases hop with rfl | ⟨config, playlist, ho⟩
    · exact .inr s.release_clears
    · have hs : (s.undergo (.operation op a)).session =
          (s.tornDown.load a config playlist).session := step_opens_session ho a
      rw [hs]
      exact load_clears s.still_tornDown rfl a playlist

theorem undergo {stranded : Prop} (h : Settled s stranded) (i : Incident) :
    Settled (s.undergo i).session
      (Entry.loses ⟨s, i⟩ ∨ stranded ∧ ¬Entry.clears ⟨s, i⟩) := by
  -- Past the entries that clear the session, only a failing switch changes whether it is stranded.
  by_cases hc : Entry.clears ⟨s, i⟩
  · exact clears hc
  cases s.bearing i with
  | spares hs =>
    have hl : ¬Entry.loses ⟨s, i⟩ := by
      rintro ⟨target, a, -, hm⟩
      simpa [Command.spares] using hs.commands _ hm
    simp only [hl, hc, not_false_eq_true, and_true, false_or]
    exact h.kept hs.isActive hs.loaded fun ha hstill => hstill.undergo ha hc
  | @opens op a config playlist ho => exact absurd (ho.clears a) hc
  | @release a => exact absurd ⟨.release, a, rfl, .inl rfl⟩ hc
  | @exitPip a =>
    have hl : ¬Entry.loses ⟨s, .operation .exitPip a⟩ := by
      rintro ⟨target, a', hi, -⟩
      cases hi
    simp only [hl, hc, not_false_eq_true, and_true, false_or]
    refine h.kept ?_ ?_ fun ha hstill => hstill.undergo ha hc
    · exact s.exitPip_isActive
    · simp only [Session.undergo, step, exitPip_eq]
      split <;> exact fun h => h
  | @switches target a e video hs =>
    obtain ⟨hp, hn⟩ := h.active hs.isActive
    obtain ⟨positions, hr⟩ := s.record_eq a.position
    cases hf : a.createFailure with
    | none =>
      have hl : ¬Entry.loses ⟨s, .operation (.switchBackend target) a⟩ := by
        rintro ⟨target', a', hi, hm⟩
        cases hi
        simp [Entry.outcome, Session.undergo, step, switchBackend_created hs hf, issue] at hm
      simp only [hl, hn, false_and, or_false]
      refine of_cleared (fun h => h) (.inl ?_)
      simp only [Session.undergo, step, switchBackend_created hs hf, hr]
      exact ⟨by simp [isActive, issue, hs.pending], hp⟩
    | some err =>
      have hinactive : (s.switchBackend a target).session.isActive = false := by
        simp [switchBackend_failed hs hf, isActive]
      have hl : Entry.loses ⟨s, .operation (.switchBackend target) a⟩ :=
        ⟨target, a, rfl, by
          simp [Entry.outcome, Session.undergo, step, switchBackend_failed hs hf]⟩
      refine ⟨fun ha => ?_, fun _ hns => absurd (.inl hl) hns, fun _ => ?_⟩
      · exact absurd ha (by simpa [Session.undergo, step] using hinactive)
      · simp only [Session.undergo, step, switchBackend_failed hs hf, hr]
        exact hp

end Settled

/-- Whether a session is stranded can be told from its history, and it shows. -/
theorem settled_after (id : String) (run : List Incident) :
    Settled ((fresh id).after run) (Stranded ((fresh id).history run)) := by
  induction run using List.reverseRecOn with
  | nil => exact .fresh id
  | append_singleton run i ih =>
    rw [after_concat, history_concat, stranded_concat]
    exact ih.undergo i

/-- A session that is not active is quiescent, unless the last thing that could take its engine away
was a switch for which no engine could be made. -/
theorem quiescent_iff (id : String) (run : List Incident)
    (h : ((fresh id).after run).isActive = false) :
    Quiescent ((fresh id).after run) ↔ ¬Stranded ((fresh id).history run) := by
  have hs := settled_after id run
  constructor
  · intro hq hst
    exact hs.stranded hst hq.phase
  · intro hn
    exact (hs.still h hn).quiescent

/-- A run that moves a live stream with avails to another backend. `failure` is why no engine can be
made there, if none can. -/
def relocation (failure : Option Error) : List Incident :=
  [.operation (.configure { castEnabled := true }) {},
    .operation (.init [{ id := "a", isLive := true, wantsAds := true }])
      { manifest := some { tracking := some ⟨"avails"⟩, id := "m" } },
    .operation (.signal (.engine (.playStarted 0))) {}, .operation (.setSticky true) {},
    .operation (.switchBackend .cast) { createFailure := failure }]

/-- The switch that fails leaves a session stranded until its release, and one that succeeds does
not. -/
theorem quiescent_iff_relocation :
    let lost := relocation (some (.engineFatal "full"))
    let moved := relocation none ++ [.operation .release {}]
    Stranded ((fresh "s").history lost) ∧
      ¬Stranded ((fresh "s").history (lost ++ [.operation .release {}])) ∧
      ¬Stranded ((fresh "s").history moved) := by
  intro lost moved
  have hlost := quiescent_iff "s" lost (by decide +kernel)
  have hreleased := quiescent_iff "s" (lost ++ [.operation .release {}]) (by decide +kernel)
  have hmoved := quiescent_iff "s" moved (by decide +kernel)
  refine ⟨?_, hreleased.mp ?_, hmoved.mp ?_⟩
  · by_contra hn
    have hphase : ((fresh "s").after lost).state.phase = .playing := by decide +kernel
    exact absurd (hphase.symm.trans (hlost.mpr hn).phase) (by decide)
  · constructor <;> decide +kernel
  · constructor <;> decide +kernel

/-- A session that has lost its engine goes on as one that plays. -/
theorem lost_engine_plays :
    let s := (fresh "s").after (relocation (some (.engineFatal "full")))
    s.engine = none ∧ s.isActive = false ∧ s.state.phase = .playing ∧ s.state.isPlaying = true ∧
      s.state.playStarted = true ∧ s.state.sticky = true ∧ s.isPolling = true := by
  decide +kernel

end Session
end Playback
