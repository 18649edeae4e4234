import Playback.Session.Step

/-! The outcomes of the operations that can replace the engine, and of their parts, each written out
as a session, the commands that are told, and the error. -/

namespace Playback

theorem Outcome.andThen_ok (s : Session) (cs : List Command) (f : Session → Outcome) :
    Outcome.andThen ⟨s, cs, none⟩ f = ⟨(f s).session, cs ++ (f s).commands, (f s).error⟩ := rfl

theorem Outcome.andThen_failed (s : Session) (cs : List Command) (e : Error)
    (f : Session → Outcome) : Outcome.andThen ⟨s, cs, some e⟩ f = ⟨s, cs, some e⟩ := rfl

/-- The videos that an operation asks to play, if it asks for any and there are enough ad tags. -/
def Operation.videos? : Operation → Option (List Video)
  | .init videos => some videos
  | .initWithAds videos tags =>
    if tags.length < videos.length then none
    else some (videos.zipWith (fun v tag => v.withAds (some tag)) tags)
  | _ => none

/-- The operation asks to play some videos, enough ad tags or not. -/
def Operation.starts : Operation → Bool
  | .init _ | .initWithAds _ _ => true
  | _ => false

namespace Session

variable {a : Answers} {config : Config} {playlist : Playlist} {s : Session}

theorem isActive_iff : s.isActive = true ↔ s.engine.isSome ∧ s.releasePending = false := by
  simp [isActive]

theorem signal_inactive (h : s.isActive = false) (a : Answers) (signal : Signal) :
    s.step a (.signal signal) = s.issue [] := by
  simp [step, handleSignal, h]

/-- What the held engine is told, if one is held. -/
def toEngine (s : Session) (c : EngineCommand) : List Command :=
  match s.engine with
  | some e => [.engine e.serial c]
  | none => []

theorem tell_eq (s : Session) (c : EngineCommand) : s.tell c = s.issue (s.toEngine c) := by
  unfold tell toEngine
  cases s.engine <;> rfl

theorem tell_session (s : Session) (c : EngineCommand) : (s.tell c).session = s := by
  rw [tell_eq]
  rfl

theorem control_session (s : Session) (c : EngineCommand) : (s.control c).session = s := by
  unfold control
  split
  · exact s.tell_session c
  · rfl

theorem releaseEngine_eq (s : Session) :
    s.releaseEngine =
      issue { s with engine := none, releasePending := false } (s.toEngine .release) := by
  simp [releaseEngine, tell_eq, issue, Outcome.andThen_ok]

/-- The session after everything that is played has been ended. -/
def tornDown (s : Session) : Session :=
  { s with
    poller := s.poller.stop
    state := s.state.reset
    adSession := none
    engine := if s.state.inPip then s.engine else none
    releasePending := false }

theorem tearDown_eq (s : Session) :
    s.tearDown = s.tornDown.issue (if s.state.inPip then [] else s.toEngine .release) := by
  unfold tearDown tornDown
  by_cases h : s.state.inPip = true
  · simp [h, Outcome.andThen_ok, issue]
  · simp [h, releaseEngine_eq, Outcome.andThen_ok, issue, toEngine]

/-- The session with the current video of `playlist` taken up. -/
def takeUp (a : Answers) (config : Config) (playlist : Playlist) (s : Session) : Session :=
  let r := Resolution.of a config playlist.current
  { s with playlist := some (playlist.setCurrent r.video), adSession := r.adSession }

/-- The load of the current video of `playlist` into a new session. -/
def firstLoad (a : Answers) (config : Config) (playlist : Playlist) (s : Session) : EngineCommand :=
  let r := Resolution.of a config playlist.current
  .load r.video (s.startOf config r.video)

theorem load_held {e : Engine} (h : s.engine = some e) :
    s.load a config playlist =
      issue { s.takeUp a config playlist with state := s.state.move .ready }
        ((Resolution.of a config playlist.current).commands ++
          [.engine e.serial (s.firstLoad a config playlist)]) := by
  simp [load, takeUp, firstLoad, h, Outcome.andThen_ok, issue, tell_eq, toEngine, startOf]

theorem load_created (h : s.engine = none) (hf : a.createFailure = none) :
    s.load a config playlist =
      issue
        { s.takeUp a config playlist with
          state := s.state.move .ready
          engine := some ⟨s.created + 1, s.state.backend⟩
          created := s.created + 1 }
        ((Resolution.of a config playlist.current).commands ++
          [.create (s.created + 1) s.state.backend,
            .engine (s.created + 1) (s.firstLoad a config playlist)]) := by
  simp [load, takeUp, firstLoad, h, hf, Outcome.andThen_ok, issue, tell_eq, toEngine, startOf,
    createEngine]

theorem load_failed {e : Error} (h : s.engine = none) (hf : a.createFailure = some e) :
    s.load a config playlist =
      ⟨s.takeUp a config playlist,
        (Resolution.of a config playlist.current).commands ++ [.createFailed s.state.backend],
        some e⟩ := by
  simp [load, takeUp, h, hf, Outcome.andThen_ok, issue, createEngine, Outcome.andThen_failed]

/-- A load leaves everything but the phase and the engine as it is when the video is taken up. -/
theorem load_session (a : Answers) (config : Config) (playlist : Playlist) (s : Session) :
    ∃ phase engine created, (s.load a config playlist).session =
      { s.takeUp a config playlist with state := { s.state with phase }, engine, created } := by
  cases he : s.engine with
  | some e => exact ⟨_, _, _, congrArg _ (load_held he)⟩
  | none => cases hf : a.createFailure with
    | none => exact ⟨_, _, _, congrArg _ (load_created he hf)⟩
    | some e =>
      rw [load_failed he hf]
      exact ⟨s.state.phase, none, s.created, by rw [← he]; rfl⟩

theorem mem_resolution {v : Video} {c : Command} (h : c ∈ (Resolution.of a config v).commands) :
    c = .resolve v := by
  unfold Resolution.of at h
  split at h
  · exact List.mem_singleton.mp h
  · cases h

/-- A load asks about its video, makes an engine or fails to, and has the engine load the video. -/
theorem mem_load {c : Command} (h : c ∈ (s.load a config playlist).commands) :
    c = .resolve playlist.current ∨ (∃ n, c = .create n s.state.backend) ∨
      c = .createFailed s.state.backend ∨ ∃ n, c = .engine n (s.firstLoad a config playlist) := by
  cases he : s.engine with
  | some e =>
    rw [load_held he] at h
    rcases List.mem_append.mp h with h | h
    · exact .inl (mem_resolution h)
    · exact .inr (.inr (.inr ⟨_, List.mem_singleton.mp h⟩))
  | none => cases hf : a.createFailure with
    | none =>
      rw [load_created he hf] at h
      rcases List.mem_append.mp h with h | h
      · exact .inl (mem_resolution h)
      · rcases List.mem_cons.mp h with h | h
        · exact .inr (.inl ⟨_, h⟩)
        · exact .inr (.inr (.inr ⟨_, List.mem_singleton.mp h⟩))
    | some err =>
      rw [load_failed he hf] at h
      rcases List.mem_append.mp h with h | h
      · exact .inl (mem_resolution h)
      · exact .inr (.inr (.inl (List.mem_singleton.mp h)))

/-- An operation that starts playback with a configuration and a playlist, past its checks. -/
structure Opens (s : Session) (op : Operation) (config : Config) (playlist : Playlist) : Prop where
  config : s.config = some config
  playlist : op.videos?.bind Playlist.ofList? = some playlist

theorem step_of_videos {op : Operation} {videos : List Video} (h : op.videos? = some videos) :
    s.step a op = s.init a videos := by
  cases op with
  | init vs =>
    cases h
    rfl
  | initWithAds vs tags =>
    simp only [Operation.videos?, Option.ite_none_left_eq_some, Option.some.injEq] at h
    obtain ⟨hn, rfl⟩ := h
    exact if_neg hn
  | _ => cases h

/-- An operation that starts playback ends what is played and loads the playlist. -/
theorem step_opens {op : Operation} (h : s.Opens op config playlist) :
    s.step a op =
      let o := s.tornDown.load a config playlist
      ⟨o.session, (if s.state.inPip then [] else s.toEngine .release) ++ o.commands, o.error⟩ := by
  obtain ⟨videos, hv, hp⟩ := Option.bind_eq_some_iff.mp h.playlist
  rw [step_of_videos hv]
  unfold init
  simp only [h.config, hp, tearDown_eq]
  rfl

theorem step_opens_session {op : Operation} (h : s.Opens op config playlist) (a : Answers) :
    (s.step a op).session = (s.tornDown.load a config playlist).session := by
  rw [step_opens h]

theorem init_cases (a : Answers) (videos : List Video) (s : Session) :
    (∃ e, s.init a videos = s.refuse e) ∨
      ∃ config playlist, s.config = some config ∧ Playlist.ofList? videos = some playlist := by
  unfold init
  cases hc : s.config with
  | none => exact .inl ⟨_, rfl⟩
  | some config =>
    cases hp : Playlist.ofList? videos with
    | none => exact .inl ⟨_, rfl⟩
    | some playlist => exact .inr ⟨config, playlist, rfl, rfl⟩

/-- An operation that asks to play videos is refused and changes nothing, or starts playback. -/
theorem starts_cases (a : Answers) (s : Session) {op : Operation} (h : op.starts = true) :
    (∃ e, s.step a op = s.refuse e) ∨ ∃ config playlist, s.Opens op config playlist := by
  have hcases : ∀ videos, op.videos? = some videos →
      (∃ e, s.step a op = s.refuse e) ∨ ∃ config playlist, s.Opens op config playlist := by
    intro videos hv
    rw [step_of_videos hv]
    rcases init_cases a videos s with hr | ⟨config, playlist, hc, hp⟩
    · exact .inl hr
    · exact .inr ⟨config, playlist, hc, by simp [hv, hp]⟩
  cases op with
  | init videos => exact hcases videos rfl
  | initWithAds videos tags =>
    by_cases hn : tags.length < videos.length
    · exact .inl ⟨_, if_pos hn⟩
    · exact hcases _ (if_neg hn)
  | _ => cases h

/-- A switch to `target` that the session goes through with: it replaces the engine `e` and moves
`video`. -/
structure Switches (s : Session) (target : Backend) (e : Engine) (video : Video) : Prop where
  config : ∃ config, s.config = some config ∧ (target = .cast → config.castEnabled = true)
  target : target ≠ s.state.backend
  engine : s.engine = some e
  pending : s.releasePending = false
  video : s.current? = some video

theorem Switches.isActive {target : Backend} {e : Engine} {video : Video}
    (h : s.Switches target e video) : s.isActive = true := by
  simp [Session.isActive, h.engine, h.pending]

theorem switchBackend_eq {target : Backend} {e : Engine} {video : Video}
    (h : s.Switches target e video) :
    s.switchBackend a target =
      (((({ s.record a.position with engine := none }.issue [.engine e.serial .release]).andThen
        (createEngine a target)).andThen
        (tell (.load video a.position))).andThen
        (fun s' => if s.state.isPlaying then s'.tell .play else s'.issue [])).andThen
        (fun s => issue { s with state := { s.state with backend := target } } []) := by
  obtain ⟨config, hc, hcast⟩ := h.config
  have hallowed : ¬(target = .cast ∧ (!config.castEnabled) = true) := by
    rintro ⟨ht, hn⟩
    simp [hcast ht] at hn
  unfold switchBackend
  simp only [hc]
  rw [if_neg hallowed, if_neg h.target, h.isActive, h.video]
  simp [releaseEngine_eq, toEngine, record, h.video, h.engine, h.pending]

theorem switchBackend_created {target : Backend} {e : Engine} {video : Video}
    (h : s.Switches target e video) (hf : a.createFailure = none) :
    s.switchBackend a target =
      issue
        { s.record a.position with
          engine := some ⟨s.created + 1, target⟩
          created := s.created + 1
          state := { s.state with backend := target } }
        ([.engine e.serial .release, .create (s.created + 1) target,
          .engine (s.created + 1) (.load video a.position)] ++
          if s.state.isPlaying then [.engine (s.created + 1) .play] else []) := by
  rw [switchBackend_eq h]
  cases hs : s.state.isPlaying <;>
    simp [hf, h.video, createEngine, tell_eq, toEngine, record, issue, Outcome.andThen_ok]

theorem switchBackend_failed {target : Backend} {e : Engine} {video : Video} {err : Error}
    (h : s.Switches target e video) (hf : a.createFailure = some err) :
    s.switchBackend a target =
      ⟨{ s.record a.position with engine := none },
        [.engine e.serial .release, .createFailed target], some err⟩ := by
  rw [switchBackend_eq h]
  simp [hf, createEngine, issue, Outcome.andThen_ok, Outcome.andThen_failed]

/-- A switch that the session does not go through with changes nothing. -/
theorem switchBackend_cases (a : Answers) (target : Backend) (s : Session) :
    (∃ err, s.switchBackend a target = ⟨s, [], err⟩) ∨ ∃ e video, s.Switches target e video := by
  unfold switchBackend
  cases hc : s.config with
  | none => exact .inl ⟨_, rfl⟩
  | some config =>
    dsimp only
    split
    · exact .inl ⟨_, rfl⟩
    rename_i hcast
    split
    · exact .inl ⟨_, rfl⟩
    rename_i ht
    split
    · rename_i video ha hv
      simp only [isActive, Bool.and_eq_true, Bool.not_eq_true'] at ha
      obtain ⟨e, he⟩ := Option.isSome_iff_exists.mp ha.1
      exact .inr ⟨e, video, ⟨config, hc, by simpa using hcast⟩, ht, he, ha.2, hv⟩
    · exact .inl ⟨_, rfl⟩

theorem release_eq (s : Session) :
    s.release =
      issue
        { s.tornDown with
          releasePending := if s.engine.isSome then s.state.inPip else s.releasePending }
        (if s.state.inPip then [] else s.toEngine .release) := by
  unfold release tornDown
  cases he : s.engine <;> cases hp : s.state.inPip <;>
    simp [releaseEngine_eq, toEngine, issue, he]

theorem exitPip_eq (s : Session) :
    s.exitPip =
      let left := { s with state := { s.state with inPip := false } }
      if s.releasePending then
        issue { left with engine := none, releasePending := false }
          (.chrome true :: s.toEngine .release)
      else left.issue [.chrome true] := by
  cases h : s.releasePending <;>
    simp [exitPip, h, releaseEngine_eq, toEngine, issue, Outcome.andThen_ok]

/-- A record changes nothing but the table of positions. -/
theorem record_eq (position : Int64) (s : Session) :
    ∃ positions, s.record position = { s with positions } := by
  unfold record
  split
  · exact ⟨_, rfl⟩
  · exact ⟨s.positions, rfl⟩

theorem changeState_backend (d : Delta) (s : State) : (changeState d s).backend = s.backend := by
  unfold changeState
  cases d.phase <;> rfl

theorem changeState_phase (d : Delta) (s : State) :
    (changeState d s).phase = (d.phase.map s.phase.move).getD s.phase := by
  unfold changeState
  cases d.phase <;> rfl

/-- The timer after the changes of `d`. -/
def changePoller (a : Answers) (d : Delta) (p : Poller) : Poller :=
  match d.timer with
  | some .start => p.startStandard (some a.now)
  | some .stop => p.stop
  | none => p

/-- The positions after the changes of `d`. -/
def changePositions (d : Delta) (s : Session) : Positions :=
  match d.position with
  | some (.record position) => (s.record position).positions
  | some .clear => (s.record noPosition).positions
  | none => s.positions

theorem change_eq (a : Answers) (d : Delta) (s : Session) :
    s.change a d =
      { s with
        state := changeState d s.state
        positions := s.changePositions d
        poller := changePoller a d s.poller } := by
  have hrecord : ∀ position, { s with state := changeState d s.state }.record position =
      { s with state := changeState d s.state, positions := (s.record position).positions } := by
    intro position
    have hcurrent : current? { s with state := changeState d s.state } = s.current? := rfl
    unfold record
    rw [hcurrent]
    cases s.current? <;> rfl
  unfold change changePositions changePoller startPolling
  simp only [hrecord]
  rcases d.position with _ | _ | _ <;> rcases d.timer with _ | _ | _ <;> rfl

/-- How a failure is mended, or shown and reported. -/
def answerFailure (s : Session) (f : Failure) : List Command :=
  if f.kind.isRecoverable then s.toEngine .seekToDefault ++ s.toEngine .prepare
  else [.overlay f.message, .report f]

theorem handleFailure_eq (f : Failure) (s : Session) :
    s.handleFailure f = s.issue (s.answerFailure f) := by
  unfold handleFailure answerFailure
  split <;> simp [tell_eq, issue, Outcome.andThen_ok]

theorem apply_eq (a : Answers) (d : Delta) (s : Session) :
    s.apply a d =
      let told := d.failure.elim [] (s.change a d).answerFailure
      if d.advances then
        let o := (s.change a d).advance a
        ⟨o.session, told ++ o.commands, o.error⟩
      else (s.change a d).issue told := by
  cases hf : d.failure <;> cases ha : d.advances <;>
    simp [apply, hf, ha, handleFailure_eq, issue, Outcome.andThen_ok]

/-- The session after the end of a video. -/
def passed (adv : Playlist.Advancement) (s : Session) : Session :=
  { s with playlist := some adv.playlist, positions := adv.positions }

/-- The end of the current video of `playlist`, after which `next` is taken up. -/
def succession (a : Answers) (config : Config) (playlist : Playlist) (next : Video) (s : Session) :
    Playlist.Advancement :=
  (playlist.setNext (Resolution.of a config next).video).advance s.positions

/-- The session that plays `next` after the current video of `playlist`, and polls for its avails if
they can be asked for. -/
def wentOn (a : Answers) (config : Config) (playlist : Playlist) (next : Video) (s : Session) :
    Session :=
  let r := Resolution.of a config next
  { s.passed (s.succession a config playlist next) with
    adSession := r.adSession
    poller :=
      if (r.adSession.bind (·.tracking)).isSome then s.poller.startStandard (some a.now)
      else s.poller
    state := { (s.state.move .ready).move .playing with playStarted := true } }

theorem advance_last (hc : s.config = some config) (hp : s.playlist = some playlist)
    (hn : playlist.next? = none) :
    s.advance a =
      let adv := playlist.advance s.positions
      (s.passed adv).issue (adv.events.map .event) := by
  simp [advance, hc, hp, hn, passed, issue]

theorem advance_next {next : Video} (hc : s.config = some config) (hp : s.playlist = some playlist)
    (hn : playlist.next? = some next) :
    s.advance a =
      let adv := s.succession a config playlist next
      issue (s.wentOn a config playlist next)
        ((Resolution.of a config next).commands ++ adv.events.map .event ++
          s.toEngine (.load adv.playlist.current 0) ++ s.toEngine .play) := by
  simp only [advance, hc, hp, hn, tell_eq, issue, Outcome.andThen_ok, List.append_nil]
  simp only [wentOn, succession, passed, toEngine, tracking?, startPolling, hc]
  split <;> simp [*]

/-- Without a configuration or a playlist nothing comes of the end of a video. -/
theorem advance_none (h : s.config = none ∨ s.playlist = none) : s.advance a = s.issue [] := by
  unfold advance
  rcases h with h | h
  · rw [h]
  · cases s.config <;> rw [h]

end Session
end Playback
