import Playback.Proofs.Session.Frame

/-! The generations of the timer that polls for avails. As long as the generation stays the same, so
does all that avails are fetched for: whatever replaces a part of it starts a new generation. -/

namespace Playback

/-- A timer that is there has not ended. -/
def Poller.Unended (p : Poller) : Prop := ∀ t, p.timer = some t → t.isOver = false

namespace Poller

theorem unended_stop (p : Poller) : p.stop.Unended := by simp [Unended, stop]

theorem unended_startStandard (p : Poller) (now : Instant) :
    (p.startStandard (some now)).Unended := by
  rintro t ⟨⟩
  rfl

theorem generation_startStandard (p : Poller) (now : Instant) :
    p.generation < (p.startStandard (some now)).generation := by
  simp only [startStandard, start, stop]
  omega

theorem generation_stop (p : Poller) : p.generation < p.stop.generation := Nat.lt_succ_self _

theorem Unended.isRunning {p : Poller} (h : p.Unended) : p.isRunning = p.timer.isSome := by
  unfold Poller.isRunning
  cases ht : p.timer with
  | none => rfl
  | some t => simp [h t ht]

theorem accepts_iff {p : Poller} {generation : Nat} :
    p.accepts generation = true ↔ p.timer.isSome ∧ generation = p.generation := by
  simp [accepts]

theorem setPeriod_cases (p : Poller) (now : Instant) (period : Duration) :
    p.isRunning = true ∧ p.setPeriod (some now) period =
        { p with period := period.orDefault }.startStandard (some now) ∨
      p.isRunning = false ∧
        p.setPeriod (some now) period = { p with period := period.orDefault } := by
  have hp : isRunning { p with period := period.orDefault } = p.isRunning := rfl
  unfold setPeriod
  dsimp only
  rw [hp]
  cases hr : p.isRunning with
  | true => exact .inl ⟨rfl, rfl⟩
  | false => exact .inr ⟨rfl, rfl⟩

theorem elapse_generation (p : Poller) (limit : Instant) :
    (p.elapse limit true).1.generation = p.generation := by
  unfold elapse
  split
  · rfl
  · dsimp only
    split <;> rfl

/-- Time moves a timer on, and neither ends nor makes one. -/
theorem elapse_timer (p : Poller) (limit : Instant) :
    (p.timer = none → (p.elapse limit true).1.timer = none) ∧
      ∀ t, p.timer = some t → ∃ due, (p.elapse limit true).1.timer = some { t with due } := by
  unfold elapse
  cases ht : p.timer with
  | none => exact ⟨fun _ => ht, by simp⟩
  | some t =>
    refine ⟨by simp, ?_⟩
    rintro t ⟨⟩
    dsimp only
    split
    · exact ⟨t.due, ht⟩
    · exact ⟨_, rfl⟩

end Poller

/-- Only the end of a video leads on in the playlist. -/
theorem Circumstances.classify_advances {c : Circumstances} {signal : Signal} :
    (c.classify signal).delta.advances = true ↔ signal = .engine .contentEnded := by
  cases signal with
  | engine signal => cases signal with
    | playStarted position =>
      simp only [classify, classifyEngine]
      split <;> simp
    | percentWatched percent =>
      simp only [classify, classifyEngine]
      split <;> simp
    | _ => simp [classify, classifyEngine]
  | ads signal => cases signal with
    | paused ad | resumed ad =>
      simp only [classify, classifyAds]
      split <;> simp
    | _ => simp [classify, classifyAds]

namespace Session

/-- The same timer goes on for the same video. -/
structure Continues (s s' : Session) : Prop where
  generation : s'.poller.generation = s.poller.generation
  timer : s'.poller.timer.isSome = s.poller.timer.isSome
  adSession : s'.adSession = s.adSession
  current : s'.current? = s.current?
  index : s'.playlist.map (·.index) = s.playlist.map (·.index)

/-- Either a new generation has begun, or the same timer goes on. -/
structure Follows (s s' : Session) : Prop where
  unended : s.poller.Unended → s'.poller.Unended
  turn : s.poller.generation < s'.poller.generation ∨ Continues s s'

namespace Follows

variable {s s' s'' : Session}

theorem refl (s : Session) : Follows s s := ⟨fun h => h, .inr ⟨rfl, rfl, rfl, rfl, rfl⟩⟩

theorem generation_le (h : Follows s s') : s.poller.generation ≤ s'.poller.generation := by
  rcases h.turn with hlt | hc
  · omega
  · exact Nat.le_of_eq hc.generation.symm

theorem trans (h : Follows s s') (h' : Follows s' s'') : Follows s s'' := by
  refine ⟨fun hu => h'.unended (h.unended hu), ?_⟩
  have hle := h.generation_le
  have hle' := h'.generation_le
  rcases h.turn with hlt | hc
  · exact .inl (by omega)
  · rcases h'.turn with hlt' | hc'
    · exact .inl (by omega)
    · exact .inr ⟨hc'.generation.trans hc.generation, hc'.timer.trans hc.timer,
        hc'.adSession.trans hc.adSession, hc'.current.trans hc.current, hc'.index.trans hc.index⟩

theorem of_eq (hp : s'.poller = s.poller) (ha : s'.adSession = s.adSession)
    (hl : s'.playlist = s.playlist) : Follows s s' := by
  refine ⟨fun h => hp ▸ h, .inr ⟨by rw [hp], by rw [hp], ha, ?_, by rw [hl]⟩⟩
  simp [current?, hl]

theorem of_stop (hp : s'.poller = s.poller.stop) : Follows s s' := by
  refine ⟨fun _ => hp ▸ s.poller.unended_stop, .inl ?_⟩
  rw [hp]
  exact s.poller.generation_stop

theorem of_start {p : Poller} {now : Instant} (hg : p.generation = s.poller.generation)
    (hp : s'.poller = p.startStandard (some now)) : Follows s s' := by
  refine ⟨fun _ => hp ▸ p.unended_startStandard now, .inl ?_⟩
  rw [hp, ← hg]
  exact p.generation_startStandard now

end Follows

variable {s : Session} {a : Answers}

theorem control_follows (c : EngineCommand) (s : Session) : Follows s (s.control c).session := by
  rw [control_session]
  exact .refl s

theorem load_poller (a : Answers) (config : Config) (playlist : Playlist) (s : Session) :
    (s.load a config playlist).session.poller = s.poller := by
  obtain ⟨phase, engine, created, hload⟩ := s.load_session a config playlist
  rw [hload]
  rfl

theorem setPeriod_follows (now : Instant) (period : Duration) (config : Option Config)
    (s : Session) :
    Follows s { s with poller := s.poller.setPeriod (some now) period, config } := by
  rcases s.poller.setPeriod_cases now period with ⟨-, hp⟩ | ⟨-, hp⟩
  · exact .of_start (p := { s.poller with period := period.orDefault }) rfl hp
  · rw [hp]
    exact ⟨fun h => h, .inr ⟨rfl, rfl, rfl, rfl, rfl⟩⟩

theorem configure_follows (a : Answers) (config : Config) (s : Session) :
    Follows s (s.configure a config).session := by
  unfold configure
  split
  · exact .refl s
  · exact setPeriod_follows a.now config.period _ s

theorem pause_follows (a : Answers) (s : Session) : Follows s (s.pause a).session := by
  unfold pause
  split
  · obtain ⟨positions, hr⟩ := s.record_eq a.position
    rw [control_session, hr]
    exact .of_eq rfl rfl rfl
  · exact .refl s

theorem addVideo_follows (video : Video) (s : Session) : Follows s (s.addVideo video).session := by
  unfold addVideo
  split
  · rename_i p _ hp
    refine ⟨fun h => h, .inr ⟨rfl, rfl, rfl, ?_, ?_⟩⟩
    · simp [issue, current?, hp, Playlist.push]
    · simp [issue, hp, Playlist.push, Playlist.index]
  · exact .refl s

theorem switchBackend_follows (a : Answers) (target : Backend) (s : Session) :
    Follows s (s.switchBackend a target).session := by
  obtain ⟨positions, hr⟩ := s.record_eq a.position
  rcases switchBackend_cases a target s with ⟨err, h⟩ | ⟨e, video, h⟩
  · rw [h]
    exact .refl s
  · cases hf : a.createFailure with
    | none =>
      rw [switchBackend_created h hf, hr]
      exact .of_eq rfl rfl rfl
    | some err =>
      rw [switchBackend_failed h hf, hr]
      exact .of_eq rfl rfl rfl

/-- The end of playback ends the timer, and a start of playback goes by way of that. -/
theorem clears_poller {i : Incident} (h : Entry.clears ⟨s, i⟩) :
    (s.undergo i).session.poller = s.poller.stop := by
  obtain ⟨op, a, rfl, hop⟩ := h
  rcases hop with rfl | ⟨config, playlist, ho⟩
  · simp only [undergo, step, release_eq]
    rfl
  · change (s.step a op).session.poller = _
    rw [step_opens_session ho, load_poller]
    rfl

theorem exitPip_follows (s : Session) : Follows s s.exitPip.session := by
  rw [exitPip_eq]
  dsimp only
  split <;> exact .of_eq rfl rfl rfl

theorem wait_follows (limit : Instant) (s : Session) :
    Follows s (s.undergo (.wait limit)).session := by
  obtain ⟨hnone, hsome⟩ := s.poller.elapse_timer limit
  refine ⟨fun hu => ?_, .inr ⟨s.poller.elapse_generation limit, ?_, rfl, rfl, rfl⟩⟩
  · show (s.poller.elapse limit true).1.Unended
    cases ht : s.poller.timer with
    | none => simp [Poller.Unended, hnone ht]
    | some t =>
      obtain ⟨due, h⟩ := hsome t ht
      simpa [Poller.Unended, h] using hu t ht
  · show (s.poller.elapse limit true).1.timer.isSome = s.poller.timer.isSome
    cases ht : s.poller.timer with
    | none => simp [hnone ht]
    | some t =>
      obtain ⟨due, h⟩ := hsome t ht
      simp [h]

theorem change_follows (a : Answers) (d : Delta) (s : Session) : Follows s (s.change a d) := by
  rw [change_eq]
  cases ht : d.timer with
  | none => exact .of_eq (by simp [changePoller, ht]) rfl rfl
  | some timer =>
    cases timer with
    | start =>
      have hp : changePoller a d s.poller = s.poller.startStandard (some a.now) := by
        simp [changePoller, ht]
      exact .of_start rfl hp
    | stop =>
      have hp : changePoller a d s.poller = s.poller.stop := by simp [changePoller, ht]
      exact .of_stop hp

theorem advance_poller (a : Answers) (s : Session) :
    (s.advance a).session.poller = s.poller ∨
      (s.advance a).session.poller = s.poller.startStandard (some a.now) := by
  unfold advance
  split
  · rename_i config p hc hp
    split
    · exact .inl rfl
    · simp only [issue, tell_eq, Outcome.andThen_ok]
      split
      · exact .inr rfl
      · exact .inl rfl
  · exact .inl rfl

/-- The end of a video stops the timer before the next one is taken up. -/
theorem apply_follows (a : Answers) {d : Delta} (hd : d.advances = true → d.timer = some .stop)
    (s : Session) : Follows s (s.apply a d).session := by
  rw [apply_eq]
  dsimp only
  split
  · rename_i hadvances
    have hstopped : (s.change a d).poller = s.poller.stop := by
      simp [change_eq, changePoller, hd hadvances]
    -- The stop comes first, so the generation is new even where no timer is started after it.
    rcases advance_poller a (s.change a d) with hp | hp
    · exact .of_stop (hp.trans hstopped)
    · rw [hstopped] at hp
      exact (Follows.of_stop hstopped).trans (.of_start (congrArg _ hstopped.symm) hp)
  · exact change_follows a d s

theorem handleSignal_follows (a : Answers) (signal : Signal) (s : Session) :
    Follows s (s.handleSignal a signal).session := by
  unfold handleSignal
  split
  · rename_i video _ _
    simp only [issue, Outcome.andThen_ok]
    refine apply_follows a (fun h => ?_) s
    rw [Circumstances.classify_advances] at h
    subst h
    rfl
  · exact .refl s

theorem handleHandoff_follows (a : Answers) (handoff : Handoff) (s : Session) :
    Follows s (s.handleHandoff a handoff).session := by
  unfold handleHandoff
  cases handoff <;> dsimp only <;> split
  · exact .refl s
  · exact .refl s
  · exact .of_start rfl rfl
  · exact .refl s

/-- Whatever happens, either a new generation begins or the same timer goes on. -/
theorem follows_undergo (s : Session) (i : Incident) : Follows s (s.undergo i).session := by
  cases i with
  | wait limit => exact wait_follows limit s
  | operation op a =>
    change Follows s (s.step a op).session
    have hstarts : op.starts = true → Follows s (s.step a op).session := by
      intro hop
      rcases starts_cases a s hop with ⟨e, he⟩ | ⟨config, playlist, ho⟩
      · rw [he]
        exact .refl s
      · exact .of_stop (clears_poller (ho.clears a))
    cases op with
    | configure config => exact configure_follows a config s
    | init | initWithAds => exact hstarts rfl
    | addVideo video => exact addVideo_follows video s
    | play => exact control_follows _ s
    | pause => exact pause_follows a s
    | seek position => exact control_follows _ s
    | setSticky sticky =>
      simp only [step, setSticky]
      split <;> exact .of_eq rfl rfl rfl
    | switchBackend target => exact switchBackend_follows a target s
    | release => exact .of_stop (clears_poller ⟨.release, a, rfl, .inl rfl⟩)
    | exitPip => exact exitPip_follows s
    | enterPip | recordPosition | clearPosition => exact .of_eq rfl rfl rfl
    | signal signal => exact handleSignal_follows a signal s
    | handoff handoff => exact handleHandoff_follows a handoff s

theorem follows_after (s : Session) (run : List Incident) : Follows s (s.after run) := by
  induction run generalizing s with
  | nil => exact .refl s
  | cons i run ih => exact (s.follows_undergo i).trans (ih _)

theorem unended_after (id : String) (run : List Incident) :
    ((fresh id).after run).poller.Unended :=
  ((fresh id).follows_after run).unended (by simp [Poller.Unended, fresh])

end Session

/-- The entry ends all that is played, or sets what the session may do. -/
def Entry.renews (e : Entry) : Prop :=
  e.clears ∨ ∃ config a, e.incident = .operation (.configure config) a ∧ config.fault? = none

namespace Session

variable {s : Session} {i : Incident}

/-- Where a timer runs, a start or an end of playback and a new configuration begin a generation. -/
theorem renews_generation (h : Entry.renews ⟨s, i⟩) (ht : s.poller.timer.isSome)
    (hu : s.poller.Unended) : s.poller.generation < (s.undergo i).session.poller.generation := by
  rcases h with h | ⟨config, a, rfl, hc⟩
  · rw [clears_poller h]
    exact s.poller.generation_stop
  · have hp : (s.undergo (.operation (.configure config) a)).session.poller =
        s.poller.setPeriod (some a.now) config.period := by
      simp only [undergo, step, configure, hc, issue]
    rw [hp]
    rcases s.poller.setPeriod_cases a.now config.period with ⟨-, h⟩ | ⟨hr, -⟩
    · rw [h]
      exact Poller.generation_startStandard { s.poller with period := config.period.orDefault } _
    · simp [hu.isRunning, ht] at hr

end Session
end Playback
