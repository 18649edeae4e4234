import Playback.Proofs.Session.Coherent

/-! The checks by which a session refuses an operation. A refused operation changes nothing and
tells nobody anything, with one exception: a pause while a release is pending, which has saved a
position before it is refused. -/

namespace Playback

theorem Playlist.ofList?_eq_none {videos : List Video} :
    Playlist.ofList? videos = none ↔ videos = [] := by
  cases videos <;> simp [Playlist.ofList?]

namespace Session

/-- Why the session refuses to play these videos, if it does. -/
def listRefusal? (videos : List Video) (s : Session) : Option Error :=
  if s.config = none then some .notConfigured
  else if videos = [] then some .emptyPlaylist
  else none

/-- Why the session refuses to switch to `target`, if it does. -/
def switchRefusal? (target : Backend) (s : Session) : Option Error :=
  match s.config with
  | none => some .notConfigured
  | some config =>
    if target = .cast ∧ config.castEnabled = false then some (.backendUnavailable target)
    else if target = s.state.backend ∨ s.isActive then none
    else some .notInitialized

/-- Why the session refuses an operation, if it does: the first of its own checks that fails. -/
def refusal? (s : Session) : Operation → Option Error
  | .configure config => config.fault?
  | .init videos => s.listRefusal? videos
  | .initWithAds videos tags =>
    if tags.length < videos.length then some (.adCountMismatch videos.length tags.length)
    else s.listRefusal? videos
  | .addVideo _ | .play | .pause | .seek _ | .setSticky _ =>
    if s.isActive then none else some .notInitialized
  | .switchBackend target => s.switchRefusal? target
  | _ => none

variable {s : Session} {a : Answers} {op : Operation} {e : Error}

theorem Coherent.current?_isSome (h : Coherent s) (he : s.engine.isSome) : s.current?.isSome := by
  obtain ⟨p, hp⟩ := Option.isSome_iff_exists.mp (h.listed he)
  simp [current?, hp]

/-- An active session has an engine, and a video to play on it. -/
theorem Coherent.plays (h : Coherent s) (ha : s.isActive = true) :
    ∃ e video, s.engine = some e ∧ s.current? = some video := by
  have hheld := (isActive_iff.mp ha).1
  obtain ⟨e, he⟩ := Option.isSome_iff_exists.mp hheld
  obtain ⟨video, hv⟩ := Option.isSome_iff_exists.mp (h.current?_isSome hheld)
  exact ⟨e, video, he, hv⟩

theorem init_refused {videos : List Video} (hr : s.listRefusal? videos = some e) :
    s.init a videos = s.refuse e := by
  unfold listRefusal? at hr
  unfold init
  cases hc : s.config with
  | none =>
    simp only [hc, ↓reduceIte, Option.some.injEq] at hr
    rw [hr]
  | some config =>
    simp only [hc, reduceCtorEq, ↓reduceIte, Option.ite_none_right_eq_some, Option.some.injEq] at hr
    obtain ⟨rfl, rfl⟩ := hr
    rfl

/-- The videos get their tags, so there are as many as before. -/
theorem listRefusal?_zipWith {videos : List Video} {tags : List String}
    (h : ¬tags.length < videos.length) (f : Video → String → Video) :
    s.listRefusal? (videos.zipWith f tags) = s.listRefusal? videos := by
  have hnil : videos.zipWith f tags = [] ↔ videos = [] := by
    rw [List.zipWith_eq_nil_iff]
    constructor
    · rintro (hv | ht)
      · exact hv
      · rw [ht] at h
        exact List.length_eq_zero_iff.mp (by simpa using h)
    · exact .inl
  simp [listRefusal?, hnil]

theorem switchBackend_refused {target : Backend}
    (hr : s.switchRefusal? target = some e) : s.switchBackend a target = s.refuse e := by
  unfold switchRefusal? at hr
  unfold switchBackend
  cases hc : s.config with
  | none =>
    simp only [hc, Option.some.injEq] at hr
    rw [hr]
  | some config =>
    simp only [hc] at hr
    dsimp only
    by_cases hcast : target = .cast ∧ config.castEnabled = false
    · rw [if_pos hcast, Option.some.injEq] at hr
      rw [if_pos (by simpa using hcast), hr]
    · rw [if_neg hcast, Option.ite_none_left_eq_some, not_or, Option.some.injEq] at hr
      obtain ⟨⟨ht, ha⟩, rfl⟩ := hr
      rw [if_neg (by simpa using hcast), if_neg ht]
      simp [ha]

/-- What a pause leaves behind that is refused: an engine that is still to be released is asked for
its position, and the position is saved. -/
theorem pause_refused (h : Coherent s) (ha : s.isActive = false) :
    s.pause a =
      ⟨if s.releasePending then s.record a.position else s, [], some .notInitialized⟩ := by
  unfold pause
  by_cases he : s.engine.isSome
  · have hp : s.releasePending = true := by simpa [isActive, he] using ha
    obtain ⟨positions, hr⟩ := s.record_eq a.position
    rw [if_pos he, hp, if_pos rfl, hr]
    simp [control, isActive, hp, refuse]
  · have hp : ¬s.releasePending = true := fun hp => he (h.pending hp)
    rw [if_neg he, if_neg hp]
    rfl

theorem inactive_of_refusal
    (hr : (if s.isActive then none else some Error.notInitialized) = some e) :
    s.isActive = false ∧ e = .notInitialized := by
  simp only [Option.ite_none_left_eq_some, Option.some.injEq, Bool.not_eq_true] at hr
  exact ⟨hr.1, hr.2.symm⟩

theorem active_of_accepted
    (hr : (if s.isActive then none else some Error.notInitialized) = none) : s.isActive = true := by
  simpa using hr

/-- A refused operation changes nothing, unless it is a pause while a release is pending. -/
theorem step_refused (h : Coherent s) (hr : s.refusal? op = some e) :
    s.step a op =
      ⟨if op = .pause ∧ s.releasePending then s.record a.position else s, [], some e⟩ := by
  cases op with
  | configure config =>
    simp only [refusal?] at hr
    simp [step, configure, hr, refuse]
  | init videos => exact init_refused hr
  | initWithAds videos tags =>
    simp only [refusal?] at hr
    change s.initWithAds a videos tags = s.refuse e
    unfold initWithAds
    split at hr
    · rename_i hlt
      cases hr
      rw [if_pos hlt]
    · rename_i hlt
      rw [if_neg hlt]
      exact init_refused (listRefusal?_zipWith hlt _ ▸ hr)
  | switchBackend target => exact switchBackend_refused hr
  | pause =>
    -- The position is saved before the check, which only a pending release can tell.
    obtain ⟨ha, rfl⟩ := inactive_of_refusal hr
    simpa [step] using pause_refused h ha
  | addVideo | play | seek | setSticky =>
    obtain ⟨ha, rfl⟩ := inactive_of_refusal hr
    simp [step, addVideo, play, seek, setSticky, control, ha, refuse]
  | _ => cases hr

theorem load_error {config : Config} {playlist : Playlist}
    (he : (s.load a config playlist).error = some e) :
    a.createFailure = some e ∧
      .createFailed s.state.backend ∈ (s.load a config playlist).commands := by
  cases hs : s.engine with
  | some held => simp [load_held hs, issue] at he
  | none =>
    cases hf : a.createFailure with
    | none => simp [load_created hs hf, issue] at he
    | some err =>
      rw [load_failed hs hf] at he ⊢
      exact ⟨he, by simp⟩

/-- A switch that is not refused is to the present backend, or one that is gone through with. -/
theorem switchBackend_accepted (h : Coherent s) {target : Backend}
    (hr : s.switchRefusal? target = none) :
    target = s.state.backend ∧ s.switchBackend a target = s.issue [] ∨
      ∃ held video, s.Switches target held video := by
  unfold switchRefusal? at hr
  unfold switchBackend
  cases hc : s.config with
  | none => simp [hc] at hr
  | some config =>
    simp only [hc] at hr
    dsimp only
    by_cases hcast : target = .cast ∧ config.castEnabled = false
    · simp [if_pos hcast] at hr
    · rw [if_neg hcast] at hr
      rw [if_neg (by simpa using hcast)]
      by_cases ht : target = s.state.backend
      · exact .inl ⟨ht, if_pos ht⟩
      · have ha : s.isActive = true := by simpa [ht] using hr
        obtain ⟨held, video, he, hv⟩ := h.plays ha
        have hp := (isActive_iff.mp ha).2
        exact .inr ⟨held, video, ⟨config, hc, by simpa using hcast⟩, ht, he, hp, hv⟩

theorem opens_of_accepted {videos : List Video} (hv : op.videos? = some videos)
    (hr : s.listRefusal? videos = none) : ∃ config playlist, s.Opens op config playlist := by
  unfold listRefusal? at hr
  split at hr
  · cases hr
  · rename_i hc
    split at hr
    · cases hr
    · rename_i hl
      obtain ⟨config, hc⟩ := Option.ne_none_iff_exists'.mp hc
      obtain ⟨playlist, hp⟩ :=
        Option.ne_none_iff_exists'.mp (mt Playlist.ofList?_eq_none.mp hl)
      exact ⟨config, playlist, hc, by simp [hv, hp]⟩

theorem advance_error (a : Answers) (s : Session) : (s.advance a).error = none := by
  unfold advance
  split
  · split
    · rfl
    · simp [tell_eq, issue, Outcome.andThen_ok]
  · rfl

theorem handleSignal_error (a : Answers) (signal : Signal) (s : Session) :
    (s.handleSignal a signal).error = none := by
  unfold handleSignal
  split
  · simp only [issue, Outcome.andThen_ok, apply_eq]
    split
    · exact advance_error a _
    · rfl
  · rfl

theorem handleHandoff_error (a : Answers) (handoff : Handoff) (s : Session) :
    (s.handleHandoff a handoff).error = none := by
  unfold handleHandoff
  cases handoff <;> dsimp only <;> split <;> rfl

theorem step_accepted (h : Coherent s) (hr : s.refusal? op = none)
    (he : (s.step a op).error = some e) :
    a.createFailure = some e ∧ ∃ backend, .createFailed backend ∈ (s.step a op).commands := by
  have hopens : ∀ videos, op.videos? = some videos → s.listRefusal? videos = none →
      a.createFailure = some e ∧ ∃ backend, .createFailed backend ∈ (s.step a op).commands := by
    intro videos hv hl
    obtain ⟨config, playlist, ho⟩ := opens_of_accepted hv hl
    rw [step_opens ho] at he ⊢
    obtain ⟨hf, hc⟩ := load_error he
    exact ⟨hf, _, List.mem_append_right _ hc⟩
  -- What may make an engine can fail there; everything else that is accepted succeeds.
  cases op with
  | init videos => exact hopens videos rfl hr
  | initWithAds videos tags =>
    simp only [refusal?] at hr
    split at hr
    · cases hr
    · rename_i hlt
      exact hopens _ (if_neg hlt) ((listRefusal?_zipWith hlt _).trans hr)
  | switchBackend target =>
    change (s.switchBackend a target).error = some e at he
    rcases switchBackend_accepted (a := a) h hr with ⟨-, hb⟩ | ⟨held, video, hs⟩
    · simp [hb, issue] at he
    · change _ ∧ ∃ backend, .createFailed backend ∈ (s.switchBackend a target).commands
      cases hf : a.createFailure with
      | none => simp [switchBackend_created hs hf, issue] at he
      | some err =>
        rw [switchBackend_failed hs hf] at he ⊢
        exact ⟨he, target, by simp⟩
  | configure config =>
    simp only [refusal?] at hr
    simp [step, configure, hr, issue] at he
  | addVideo video =>
    have ha := active_of_accepted hr
    obtain ⟨p, hp⟩ := Option.isSome_iff_exists.mp (h.listed (isActive_iff.mp ha).1)
    simp [step, addVideo, ha, hp, issue] at he
  | pause =>
    have ha := active_of_accepted hr
    obtain ⟨positions, hr⟩ := s.record_eq a.position
    have ha' : isActive { s with positions } = true := ha
    simp [step, pause, hr, (isActive_iff.mp ha).1, control, ha', tell_eq, issue] at he
  | play | seek | setSticky =>
    have ha := active_of_accepted hr
    simp [step, play, seek, setSticky, control, ha, tell_eq, issue] at he
  | signal signal => simp [step, handleSignal_error] at he
  | handoff handoff => simp [step, handleHandoff_error] at he
  | release => simp [step, release_eq, issue] at he
  | exitPip =>
    cases hp : s.releasePending <;> simp [step, exitPip_eq, hp, issue] at he
  | enterPip | recordPosition | clearPosition => cases he

/-- A call that the session's own checks refuse leaves everything as it was and tells nobody
anything. Only a pause while a release is pending saves the position of the current video before it
is refused. A call that they do not refuse fails only where an engine cannot be made. -/
theorem refused_call (id : String) (run : List Incident) (a : Answers) (op : Operation) :
    let s := (fresh id).after run
    (∀ e, s.refusal? op = some e →
      if op = .pause ∧ s.releasePending then
        ∃ video, s.current? = some video ∧
          s.step a op =
            ⟨{ s with positions := s.positions.record video.id a.position }, [], some e⟩
      else s.step a op = ⟨s, [], some e⟩) ∧
    (s.refusal? op = none → ∀ e, (s.step a op).error = some e →
      a.createFailure = some e ∧ ∃ backend, .createFailed backend ∈ (s.step a op).commands) := by
  intro s
  have h : Coherent s := coherent_after id run
  refine ⟨fun e hr => ?_, fun hr e he => step_accepted h hr he⟩
  have hstep := step_refused (a := a) h hr
  by_cases hp : op = .pause ∧ s.releasePending
  · rw [if_pos hp] at hstep ⊢
    obtain ⟨video, hv⟩ := Option.isSome_iff_exists.mp (h.current?_isSome (h.pending hp.2))
    refine ⟨video, hv, ?_⟩
    rw [hstep, record, hv]
  · rw [if_neg hp] at hstep ⊢
    exact hstep

/-- A run that ends in Picture-in-Picture with a release pending. -/
def deferral : List Incident :=
  [.operation (.configure { castEnabled := true }) {}, .operation (.init [{ id := "a" }]) {},
    .operation .enterPip {}, .operation .release {}]

/-- With a release pending, a pause is refused after a save and a seek without one. In a session
that plays, a switch for which no engine can be made is not refused but fails. -/
theorem refused_call_deferral :
    let s := (fresh "s").after deferral
    let playing := (fresh "s").after (deferral.take 2)
    let a : Answers := { position := 5, createFailure := some (.engineFatal "full") }
    (∃ video, s.current? = some video ∧
      s.step a .pause =
        ⟨{ s with positions := s.positions.record video.id 5 }, [], some .notInitialized⟩) ∧
    s.step a (.seek 5) = ⟨s, [], some .notInitialized⟩ ∧
    ∃ backend,
      .createFailed backend ∈ (playing.step a (.switchBackend .cast)).commands := by
  intro s playing a
  have hpause := (refused_call "s" deferral a .pause).1 .notInitialized (by decide +kernel)
  have hseek := (refused_call "s" deferral a (.seek 5)).1 .notInitialized (by decide +kernel)
  have hswitch := (refused_call "s" (deferral.take 2) a (.switchBackend .cast)).2
    (by decide +kernel) (.engineFatal "full") (by decide +kernel)
  refine ⟨?_, ?_, hswitch.2⟩
  · rwa [if_pos (by decide +kernel)] at hpause
  · rwa [if_neg (by decide +kernel)] at hseek

/-- The refused pause of a session with a release pending saves a position. -/
theorem refused_pause_saves :
    let s := (fresh "s").after deferral
    s.refusal? .pause = some .notInitialized ∧
      (s.step { position := 5 } .pause).error = some .notInitialized ∧
      s.readPosition "a" = noPosition ∧
      (s.step { position := 5 } .pause).session.readPosition "a" = 5 := by
  decide +kernel

end Session
end Playback
