import Playback.Proofs.Playlist.Course
import Playback.Proofs.Polling.Pace

/-! The end of a video that a session plays. The video is reported as played to its end, and its
position is forgotten. The next video is played in its place; after the last one the session comes
to rest. What comes of it does not depend on the phase, except that a session which has not started
the last video stays ready. -/

namespace Playback

/-- The ad session of the video is asked for when the video is taken up. -/
def Config.asksFor (config : Config) (v : Video) : Bool :=
  v.isLive && v.wantsAds && config.adsEnabled

/-- What the answer about the ads of a video is, if it is asked for. -/
def Answers.adSession? (a : Answers) (config : Config) (v : Video) : Option AdSession :=
  if config.asksFor v then a.manifest else none

/-- The video under the address of its stitched manifest, if it has one. -/
def Video.stitched (v : Video) (adSession : Option AdSession) : Video :=
  match adSession.bind (·.manifest) with
  | some url => v.withId url.text
  | none => v

theorem Video.stitched_eq (v : Video) (adSession : Option AdSession) :
    v.stitched adSession =
      { v with id := (adSession.bind (·.manifest)).elim v.id (·.text) } := by
  unfold stitched
  cases adSession.bind (·.manifest) <;> rfl

theorem Resolution.of_eq (a : Answers) (config : Config) (v : Video) :
    Resolution.of a config v =
      ⟨v.stitched (a.adSession? config v), a.adSession? config v,
        if config.asksFor v then [.resolve v] else []⟩ := by
  have hasks : config.asksFor v = true ↔ v.isLive ∧ v.wantsAds ∧ config.adsEnabled := by
    simp [Config.asksFor, and_assoc]
  unfold Resolution.of Answers.adSession?
  by_cases h : v.isLive ∧ v.wantsAds ∧ config.adsEnabled
  · simp only [h, hasks.mpr h, and_self, if_true]
    rfl
  · simp only [h, mt hasks.mp h, if_false]
    rfl

/-- The end is reached from every phase in which something has been played. -/
theorem Phase.move_ended {p : Phase} (h : p ≠ .idle) :
    p.move .ended = if p = .ready then .ready else .ended := by
  cases p with
  | idle => exact absurd rfl h
  | adBreak paused => cases paused <;> rfl
  | _ => rfl

/-- From the end of a video the next one is played, wherever the phase has been. -/
theorem Phase.move_onward (p : Phase) :
    ((p.move .ended).move .ready).move .playing = .playing := by
  cases p with
  | adBreak paused => cases paused <;> rfl
  | _ => rfl

namespace Playlist

variable {p : Playlist}

/-- The next video may be described anew before it is taken up. -/
theorem advance_setNext {next : Video} (hn : p.next? = some next) (v : Video)
    (positions : Positions) :
    let adv := (p.setNext v).advance positions
    adv.events = [completed p.current, started v] ∧
      adv.positions = positions.clear p.current.id ∧ adv.playlist.current = v ∧
      adv.playlist.index = p.index + 1 ∧ adv.playlist.isFinished = false ∧
      adv.playlist.videos = p.videos.set (p.index + 1) v := by
  unfold next? at hn
  cases hu : p.upcoming with
  | nil => simp [hu] at hn
  | cons w rest =>
    have h : p.isFinished = false := by
      by_contra hfinished
      simp [hfinished] at hn
    have hs : (p.setNext v).upcoming = v :: rest := by simp [setNext, hu]
    rw [advance_next (p := p.setNext v) h hs]
    refine ⟨rfl, rfl, rfl, ?_, rfl, ?_⟩
    · simp [index, setNext]
    · simp [videos, index, setNext, hu]

end Playlist

namespace Session

variable {s : Session} {p : Playlist}

/-- The session with its video at the end, before it is decided what is played next. -/
def ended (s : Session) : Session :=
  { s with
    state := { s.state.move .ended with playStarted := false }
    poller := s.poller.stop }

theorem contentEnded_eq (hactive : s.isActive = true) (hp : s.playlist = some p) (a : Answers) :
    s.step a (.signal (.engine .contentEnded)) = s.ended.advance a := by
  have hcurrent : s.current? = some p.current := by simp [current?, hp]
  simp only [step, handleSignal, hactive, hcurrent, issue, Outcome.andThen_ok, apply_eq, change_eq]
  rfl

/-- The end of the current video of `p` in `s`, after which `v` is played by the engine `e`. The
video that comes next is `next`, and `answer` is known of its ads. -/
structure GoesOn (s : Session) (a : Answers) (config : Config) (e : Engine) (p : Playlist)
    (next : Video) (answer : Option AdSession) (v : Video) (o : Outcome) : Prop where
  error : o.error = none
  commands : o.commands =
    (if config.asksFor next then [.resolve next] else []) ++
      [.event ⟨p.current.id, .playCompleted, .playback p.current.duration 100⟩,
        .event ⟨v.id, .playStarted, .playback 0 0⟩, .engine e.serial (.load v 0),
        .engine e.serial .play]
  playlist : ∃ q, o.session.playlist = some q ∧ q.index = p.index + 1 ∧
    q.progress = .playing (p.index + 1) ∧ q.videos = p.videos.set (p.index + 1) v
  positions : ∀ id, o.session.readPosition id =
    if id = p.current.id then noPosition else s.readPosition id
  state : o.session.state = { s.state with phase := .playing, playStarted := true }
  adSession : o.session.adSession = answer
  polling : o.session.isPolling = (answer.bind (·.tracking)).isSome
  generation : s.poller.generation < o.session.poller.generation
  /-- A timer that runs is a new one. -/
  timer : ∀ t, o.session.poller.timer = some t →
    s.poller.generation < t.generation ∧ t.due = a.now + config.period ∧ t.period = config.period
  /-- Nothing else changes. -/
  frame : o.session =
    { s with
      playlist := o.session.playlist
      positions := o.session.positions
      state := o.session.state
      adSession := o.session.adSession
      poller := o.session.poller }

/-- The end of the current video of `p` in `s`, after which nothing is played. -/
structure Concludes (s : Session) (p : Playlist) (o : Outcome) : Prop where
  error : o.error = none
  commands : o.commands =
    [.event ⟨p.current.id, .playCompleted, .playback p.current.duration 100⟩]
  playlist : ∃ q, o.session.playlist = some q ∧ q.index = p.index ∧ q.progress = .finished ∧
    q.videos = p.videos
  positions : ∀ id, o.session.readPosition id =
    if id = p.current.id then noPosition else s.readPosition id
  state : o.session.state =
    { s.state with
      phase := if s.state.phase = .ready then .ready else .ended
      playStarted := false }
  polling : o.session.isPolling = false
  /-- Nothing else changes. -/
  frame : o.session =
    { s with
      playlist := o.session.playlist
      positions := o.session.positions
      state := o.session.state
      poller := o.session.poller }

theorem poller_ended {s : Session} {period : Duration} (h : s.poller.Regular)
    (hperiod : s.poller.period = period) (now : Instant) (tracked : Bool) :
    let q := if tracked then s.ended.poller.startStandard (some now) else s.ended.poller
    q.isRunning = tracked ∧ s.poller.generation < q.generation ∧
      ∀ t, q.timer = some t →
        s.poller.generation < t.generation ∧ t.due = now + period ∧ t.period = period := by
  have hstop : s.poller.generation < s.ended.poller.generation := s.poller.generation_stop
  cases tracked with
  | false => exact ⟨rfl, hstop, fun t ht => (by cases ht)⟩
  | true =>
    have hstart := s.ended.poller.generation_startStandard now
    have hnew : s.poller.generation < (s.ended.poller.startStandard (some now)).generation := by
      omega
    have htimer := Poller.timer_startStandard (p := s.ended.poller) h.positive now
    have hended : s.ended.poller.period = period := hperiod
    refine ⟨?_, hnew, fun t ht => ?_⟩
    · show (s.ended.poller.startStandard (some now)).isRunning = true
      simp [Poller.isRunning, htimer]
    · rw [if_pos rfl, htimer] at ht
      cases ht
      exact ⟨hnew, by rw [hended], hended⟩

theorem state_onward (s : Session) :
    { (s.ended.state.move .ready).move .playing with playStarted := true } =
      { s.state with phase := .playing, playStarted := true } := by
  simp [ended, State.move, Phase.move_onward]

theorem ended_next {config : Config} {e : Engine} {next : Video} (a : Answers)
    (hc : s.config = some config) (he : s.engine = some e) (hp : s.playlist = some p)
    (hn : p.next? = some next) :
    let answer := a.adSession? config next
    let adv := (p.setNext (next.stitched answer)).advance s.positions
    s.ended.advance a =
      issue
        { s with
          playlist := some adv.playlist
          positions := adv.positions
          state := { s.state with phase := .playing, playStarted := true }
          adSession := answer
          poller :=
            if (answer.bind (·.tracking)).isSome then s.ended.poller.startStandard (some a.now)
            else s.ended.poller }
        ((if config.asksFor next then [.resolve next] else []) ++ adv.events.map .event ++
          [.engine e.serial (.load adv.playlist.current 0), .engine e.serial .play]) := by
  have hheld : ∀ c, s.ended.toEngine c = [.engine e.serial c] := fun c => by
    simp [toEngine, ended, he]
  have hadvance := advance_next (s := s.ended) (a := a) hc hp hn
  simp only [succession, wentOn, passed, Resolution.of_eq, state_onward, hheld,
    List.append_assoc] at hadvance
  rw [hadvance]
  simp only [List.append_assoc]
  rfl

theorem ended_goesOn {config : Config} {e : Engine} {next : Video} (a : Answers)
    (hpaced : Paced s) (hc : s.config = some config) (he : s.engine = some e)
    (hp : s.playlist = some p) (hn : p.progress ≠ .finished)
    (hnext : p.videos[p.index + 1]? = some next) :
    GoesOn s a config e p next (a.adSession? config next)
      (next.stitched (a.adSession? config next)) (s.ended.advance a) := by
  have hnext? : p.next? = some next := by rw [p.next?_eq, if_neg hn, hnext]
  -- Everything below holds of whatever answer there is.
  rw [ended_next a hc he hp hnext?]
  generalize a.adSession? config next = answer
  obtain ⟨hevents, hpositions, hcurrent, hindex, hplaying, hvideos⟩ :=
    p.advance_setNext hnext? (next.stitched answer) s.positions
  obtain ⟨hrunning, hgeneration, htimer⟩ := poller_ended hpaced.regular (hpaced.period config hc)
    a.now (answer.bind (·.tracking)).isSome
  refine ⟨rfl, ?_, ⟨_, rfl, hindex, ?_, hvideos⟩, fun id => ?_, rfl, rfl, hrunning, hgeneration,
    htimer, rfl⟩
  · simp only [issue, hevents, hcurrent, List.append_assoc]
    rfl
  · rw [Playlist.progress, hplaying, hindex]
    rfl
  · simp only [issue, readPosition, hpositions]
    exact s.positions.read_record p.current.id id noPosition

theorem ended_last {config : Config} (a : Answers) (hc : s.config = some config)
    (hp : s.playlist = some p) (hn : p.progress ≠ .finished)
    (hlast : p.videos[p.index + 1]? = none) :
    s.ended.advance a =
      issue
        { s.ended with
          playlist := some { p with isFinished := true }
          positions := s.positions.clear p.current.id }
        [.event (Playlist.completed p.current)] := by
  have hnext? : p.next? = none := by rw [p.next?_eq, if_neg hn, hlast]
  have hupcoming : p.upcoming = [] := by
    rw [p.getElem?_index_succ] at hlast
    exact List.head?_eq_none_iff.mp hlast
  rw [advance_last (s := s.ended) hc hp hnext?,
    Playlist.advance_last (Playlist.isFinished_eq_false hn) hupcoming]
  rfl

theorem ended_concludes {config : Config} (a : Answers) (hc : s.config = some config)
    (hp : s.playlist = some p) (hidle : s.state.phase ≠ .idle) (hn : p.progress ≠ .finished)
    (hlast : p.videos[p.index + 1]? = none) : Concludes s p (s.ended.advance a) := by
  rw [ended_last a hc hp hn hlast]
  refine ⟨rfl, rfl, ⟨_, rfl, rfl, rfl, rfl⟩, fun id => ?_, ?_, rfl, rfl⟩
  · exact s.positions.read_record p.current.id id noPosition
  · show { s.state.move .ended with playStarted := false } = _
    simp only [State.move, Phase.move_ended hidle]

/-- The state after a signal is the one that the signal means, unless the next video is taken
up. -/
theorem signal_state (h : Coherent s) (hactive : s.isActive = true) {video : Video}
    (hv : s.current? = some video) (a : Answers) (signal : Signal) :
    let d := (Circumstances.classify ⟨s.state, video, s.tracking?.isSome⟩ signal).delta
    (s.step a (.signal signal)).session.state = changeState d s.state ∨
      signal = .engine .contentEnded ∧ (s.playlist.bind (·.next?)).isSome ∧
        (s.step a (.signal signal)).session.state =
          { s.state with phase := .playing, playStarted := true } := by
  intro d
  have hheld := (isActive_iff.mp hactive).1
  by_cases hended : signal = .engine .contentEnded
  · subst hended
    obtain ⟨config, hc⟩ := Option.isSome_iff_exists.mp (h.configured hheld)
    obtain ⟨p, hp⟩ := Option.isSome_iff_exists.mp (h.listed hheld)
    rw [contentEnded_eq hactive hp]
    cases hn : p.next? with
    | none =>
      rw [advance_last (s := s.ended) hc hp hn]
      exact .inl rfl
    | some next =>
      rw [advance_next (s := s.ended) hc hp hn]
      exact .inr ⟨rfl, by simp [hp, hn], s.state_onward⟩
  · have hnot : d.advances = false := by
      rw [← Bool.not_eq_true, Circumstances.classify_advances]
      exact hended
    left
    simp only [step, handleSignal, hactive, hv, issue, Outcome.andThen_ok, apply_eq]
    rw [if_neg (by simpa [d] using hnot), change_eq]

/-- When a video ends that is not the last one, the next one is taken up and played, under the
address that the answer about its ads gives it. -/
theorem contentEnded_goes_on (id : String) (run : List Incident) (a : Answers) (p : Playlist)
    (next : Video) (hactive : ((fresh id).after run).isActive = true)
    (hp : ((fresh id).after run).playlist = some p) (hn : p.progress ≠ .finished)
    (hnext : p.videos[p.index + 1]? = some next) :
    let s := (fresh id).after run
    ∃ config e, s.config = some config ∧ s.engine = some e ∧
      GoesOn s a config e p next (a.adSession? config next)
        (next.stitched (a.adSession? config next))
        (s.step a (.signal (.engine .contentEnded))) := by
  intro s
  have hheld := (isActive_iff.mp hactive).1
  obtain ⟨config, hc⟩ := Option.isSome_iff_exists.mp ((coherent_after id run).configured hheld)
  obtain ⟨e, he⟩ := Option.isSome_iff_exists.mp hheld
  refine ⟨config, e, hc, he, ?_⟩
  rw [contentEnded_eq hactive hp]
  exact ended_goesOn a (paced_after id run) hc he hp hn hnext

/-- A run that stops in an ad break of a video, with a live stream with ads after it. -/
def intermission : List Incident :=
  [.operation (.configure {}) {},
    .operation
      (.init [{ id := "a", duration := 90 }, { id := "b", isLive := true, wantsAds := true }]) {},
    .operation (.recordPosition "a" 30) {}, .operation (.signal (.ads (.started 1 {}))) {},
    .operation (.signal (.ads (.paused {}))) {}]

/-- The live stream is played under the address of its manifest, and its avails are polled for. -/
theorem contentEnded_goes_on_live :
    let s := (fresh "s").after intermission
    let o := s.step
      { now := 7, manifest := some { manifest := some ⟨"m"⟩, tracking := some ⟨"t"⟩, id := "x" } }
      (.signal (.engine .contentEnded))
    s.state.phase = .adBreak true ∧ s.readPosition "a" = 30 ∧
      o.commands =
        [.resolve { id := "b", isLive := true, wantsAds := true },
          .event ⟨"a", .playCompleted, .playback 90 100⟩,
          .event ⟨"m", .playStarted, .playback 0 0⟩,
          .engine 1 (.load { id := "m", isLive := true, wantsAds := true } 0), .engine 1 .play] ∧
      o.session.state.phase = .playing ∧ o.session.readPosition "a" = noPosition ∧
      o.session.isPolling = true := by
  intro s o
  obtain ⟨config, e, hc, he, h⟩ := contentEnded_goes_on "s" intermission
    { now := 7, manifest := some { manifest := some ⟨"m"⟩, tracking := some ⟨"t"⟩, id := "x" } }
    { past := [], current := { id := "a", duration := 90 },
      upcoming := [{ id := "b", isLive := true, wantsAds := true }] }
    { id := "b", isLive := true, wantsAds := true } (by decide +kernel) (by decide +kernel)
    (by decide +kernel) (by decide +kernel)
  have hconfig : ((fresh "s").after intermission).config = some {} := by decide +kernel
  have hengine : ((fresh "s").after intermission).engine = some ⟨1, .device⟩ := by decide +kernel
  rw [hconfig] at hc
  rw [hengine] at he
  cases hc
  cases he
  exact ⟨by decide +kernel, by decide +kernel, h.commands, congrArg State.phase h.state,
    h.positions "a", h.polling⟩

/-- When the last video ends, its end is reported and nothing is played any more. The session is at
the end then, unless it has not left the phase in which the video was loaded. -/
theorem contentEnded_concludes (id : String) (run : List Incident) (a : Answers) (p : Playlist)
    (hactive : ((fresh id).after run).isActive = true)
    (hp : ((fresh id).after run).playlist = some p) (hn : p.progress ≠ .finished)
    (hlast : p.videos[p.index + 1]? = none) :
    let s := (fresh id).after run
    Concludes s p (s.step a (.signal (.engine .contentEnded))) := by
  intro s
  have hheld := (isActive_iff.mp hactive).1
  obtain ⟨config, hc⟩ := Option.isSome_iff_exists.mp ((coherent_after id run).configured hheld)
  have hidle : s.state.phase ≠ .idle := ((settled_after id run).active hactive).1
  rw [contentEnded_eq hactive hp]
  exact ended_concludes a hc hp hidle hn hlast

/-- The end of a live stream that polls for avails, from an ad break. -/
theorem contentEnded_concludes_break :
    let s := (fresh "s").after
      (relocation none ++ [.operation (.signal (.engine (.adStarted 50))) {}])
    let o := s.step {} (.signal (.engine .contentEnded))
    s.isPolling = true ∧ s.state.phase = .adBreak false ∧
      o.commands = [.event ⟨"a", .playCompleted, .playback 0 100⟩] ∧
      o.session.state.phase = .ended ∧ o.session.isPolling = false := by
  intro s o
  have h := contentEnded_concludes "s"
    (relocation none ++ [.operation (.signal (.engine (.adStarted 50))) {}]) {}
    { past := [], current := { id := "a", isLive := true, wantsAds := true }, upcoming := [] }
    (by decide +kernel) (by decide +kernel) (by decide +kernel) (by decide +kernel)
  have hphase : s.state.phase = .adBreak false := by decide +kernel
  refine ⟨by decide +kernel, hphase, h.commands, ?_, h.polling⟩
  have hend : o.session.state.phase = if s.state.phase = .ready then .ready else .ended :=
    congrArg State.phase h.state
  rw [hend, hphase]
  rfl

/-- A video that ends before it has been started leaves its session ready, though its end has been
reported and the playlist is finished. -/
theorem unstarted_end_ready :
    let s := (fresh "s").after
      [.operation (.configure {}) {}, .operation (.init [{ id := "a", duration := 90 }]) {}]
    let o := s.step {} (.signal (.engine .contentEnded))
    s.isActive = true ∧ s.state.phase = .ready ∧
      s.playlist = some { past := [], current := { id := "a", duration := 90 }, upcoming := [] } ∧
      o.commands = [.event ⟨"a", .playCompleted, .playback 90 100⟩] ∧
      o.session.playlist.map (·.progress) = some .finished ∧ o.session.state.phase = .ready := by
  decide +kernel

end Session
end Playback
