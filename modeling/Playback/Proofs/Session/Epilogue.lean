import Playback.Proofs.Playlist.Stitching

/-! What becomes of a session after the end of its last video. The playlist stays finished, but the
phase does not stay at the end: ads may follow, and what ends them may let the video go on. -/

namespace Playback

/-- Whether the video goes on with the signal, where the signal decides that and there is no next
video. `started` says whether the video counts as started. -/
def Signal.goesOn? (started : Bool) : Signal → Option Bool
  | .engine (.playStarted _) => if started then none else some true
  | .engine (.resumed _) | .ads .breakEnded => some true
  | .engine (.adCompleted percent) => some (AdPosition.ofCompletion percent ≠ .postroll)
  | .engine (.paused _) | .engine (.adStarted _) | .engine (.playCompleted _)
  | .engine .contentEnded | .ads (.started _ _) => some false
  | _ => none

/-- Whether the video goes on with the entry, where the entry decides that. -/
def Entry.goesOn? (e : Entry) : Option Bool :=
  if e.before.isActive then e.incident.signal?.bind (·.goesOn? e.before.state.playStarted)
  else none

/-- The video that is loaded has been started. -/
def Phase.hasBegun (p : Phase) : Bool := p ≠ .idle ∧ p ≠ .ready

/-- Once a video has begun, a change leads to playing if it asks for that, and not otherwise. -/
theorem Phase.move_begun {p target : Phase} (hp : p.hasBegun = true) (ht : target.hasBegun = true) :
    (p.move target).hasBegun = true ∧ (p.move target = .playing ↔ target = .playing) := by
  cases p <;> cases target <;> revert hp ht <;> decide +revert

/-- A signal that decides whether the video goes on asks for a phase accordingly. Any other leaves
the phase, or pauses or resumes an ad on screen. -/
theorem Circumstances.classify_goesOn (c : Circumstances) (signal : Signal) :
    let d := (c.classify signal).delta
    let goesOn? := signal.goesOn? c.state.playStarted
    d.phase = none ∧ goesOn? = none ∨
      ∃ target, d.phase = some target ∧ target.hasBegun = true ∧
        (goesOn? = some (decide (target = .playing)) ∨
          goesOn? = none ∧ target ≠ .playing ∧ c.state.phase ≠ .playing) := by
  cases signal with
  | engine signal => cases signal with
    | playStarted position =>
      simp only [classify, classifyEngine]
      cases c.state.playStarted with
      | true => exact .inl ⟨rfl, rfl⟩
      | false => exact .inr ⟨.playing, rfl, rfl, .inl rfl⟩
    | seeked | fault => exact .inl ⟨rfl, rfl⟩
    | percentWatched percent =>
      refine .inl ⟨?_, rfl⟩
      simp only [classify, classifyEngine]
      split <;> rfl
    | adCompleted percent =>
      refine .inr ⟨_, rfl, ?_, .inl ?_⟩
      · split <;> rfl
      · show some (decide (AdPosition.ofCompletion percent ≠ .postroll)) = _
        split <;> simp [*]
    | _ => exact .inr ⟨_, rfl, rfl, .inl rfl⟩
  | ads signal => cases signal with
    | started | breakEnded => exact .inr ⟨_, rfl, rfl, .inl rfl⟩
    | completed | skipped | clicked => exact .inl ⟨rfl, rfl⟩
    | paused ad =>
      simp only [classify, classifyAds]
      split
      · rename_i hbreak
        refine .inr ⟨_, rfl, rfl, .inr ⟨rfl, by simp, fun hp => ?_⟩⟩
        simp [State.inAdBreak, hp] at hbreak
      · exact .inl ⟨rfl, rfl⟩
    | resumed ad =>
      simp only [classify, classifyAds]
      split
      · rename_i hbreak
        refine .inr ⟨_, rfl, rfl, .inr ⟨rfl, by simp, fun hp => ?_⟩⟩
        simp [State.adPaused, hp] at hbreak
      · exact .inl ⟨rfl, rfl⟩

theorem State.isPlaying_iff {s : State} :
    s.isPlaying = true ↔ s.phase = .playing ∨ s.phase = .adBreak false := by
  unfold isPlaying
  split <;> simp_all

namespace Session

variable {s : Session}

theorem classify_playing {c : Circumstances} (hb : c.state.phase.hasBegun = true)
    (signal : Signal) :
    let after := changeState (c.classify signal).delta c.state
    after.phase.hasBegun = true ∧ (after.phase = .playing ↔
      (signal.goesOn? c.state.playStarted).getD (c.state.phase = .playing) = true) := by
  intro after
  have hafter : after.phase = _ := changeState_phase _ _
  rw [hafter]
  rcases c.classify_goesOn signal with ⟨hd, hg⟩ | ⟨target, hd, ht, hg⟩
  · rw [hd, hg]
    exact ⟨hb, by simp⟩
  · obtain ⟨hbegun, hplaying⟩ := Phase.move_begun hb ht
    rw [hd]
    refine ⟨hbegun, hplaying.trans ?_⟩
    rcases hg with hg | ⟨hg, hne, hp⟩
    · simp [hg]
    · simp [hg, hne, hp]

/-- One incident after the end of the last video. -/
theorem undergo_playing (h : Coherent s) {p : Playlist} (hp : s.playlist = some p)
    (hf : p.isFinished = true) (hb : s.state.phase.hasBegun = true) {i : Incident}
    (hc : ¬Entry.clears ⟨s, i⟩) :
    (s.undergo i).session.state.phase.hasBegun = true ∧
      ((s.undergo i).session.state.phase = .playing ↔
        (Entry.goesOn? ⟨s, i⟩).getD (s.state.phase = .playing) = true) := by
  cases hi : i.signal? with
  | none =>
    obtain ⟨backend, sticky, hstate⟩ := s.state_kept (Incident.signal?_eq_none.mp hi) hc
    rw [hstate]
    exact ⟨hb, by simp [Entry.goesOn?, hi]⟩
  | some signal =>
    obtain ⟨a, rfl⟩ := Incident.signal?_eq_some.mp hi
    show (s.step a (.signal signal)).session.state.phase.hasBegun = true ∧
      ((s.step a (.signal signal)).session.state.phase = .playing ↔ _)
    cases hactive : s.isActive with
    | false =>
      rw [signal_inactive hactive]
      exact ⟨hb, by simp [Entry.goesOn?, hactive, issue]⟩
    | true =>
      have hv : s.current? = some p.current := by simp [current?, hp]
      rcases signal_state h hactive hv a signal with hstate | ⟨-, hnext, -⟩
      · rw [hstate]
        simp only [Entry.goesOn?, hactive, hi, if_true, Option.bind_some]
        exact classify_playing (c := ⟨s.state, p.current, s.tracking?.isSome⟩) hb signal
      · -- A finished playlist has no next video to be taken up.
        simp [hp, Playlist.next?, hf] at hnext

/-- How a session goes on after the end of its last video, where `h` is all that has happened since
then. -/
structure Epilogue (s : Session) (h : List Entry) : Prop where
  finished : ∃ p, s.playlist = some p ∧ p.progress = .finished
  begun : s.state.phase.hasBegun = true
  /-- The session plays again where the last entry that decides about it has let the video go on. -/
  playing : s.state.phase = .playing ↔ (h.filterMap Entry.goesOn?).getLast? = some true

namespace Epilogue

theorem undergo {h : List Entry} (he : Epilogue s h) (hc : Coherent s) {i : Incident}
    (hn : ¬Entry.clears ⟨s, i⟩) : Epilogue (s.undergo i).session (h ++ [⟨s, i⟩]) := by
  obtain ⟨p, hp, hf⟩ := he.finished
  rw [Playlist.progress_eq_finished] at hf
  obtain ⟨q, hq, hqf, -⟩ := undergo_finished hp hf hn
  obtain ⟨hbegun, hplaying⟩ := undergo_playing hc hp hf he.begun hn
  refine ⟨⟨q, hq, Playlist.progress_eq_finished.mpr hqf⟩, hbegun, hplaying.trans ?_⟩
  rw [getLast?_filterMap_concat]
  cases hg : Entry.goesOn? ⟨s, i⟩ with
  | none => simpa using he.playing
  | some goesOn => simp

theorem after (hc : Coherent s) {later : List Incident} (hn : ∀ e ∈ s.history later, ¬e.clears)
    (he : Epilogue s []) : Epilogue (s.after later) (s.history later) := by
  induction later using List.reverseRecOn with
  | nil => exact he
  | append_singleton later i ih =>
    rw [history_concat, List.forall_mem_append, List.forall_mem_singleton] at hn
    rw [after_concat, history_concat]
    exact (ih hn.1).undergo (hc.after later) hn.2

end Epilogue

/-- After the end of the last video the playlist stays finished, and a session that plays has an ad
on screen, or else what decided last has let the video go on: its start or its resumption, the end
of an ad that the engine takes to stand before or in the video, or the end of any ad break that the
ad software reports. -/
theorem finished_goes_on (id : String) (run later : List Incident)
    (hfinished : ((fresh id).after run).playlist.map (·.progress) = some .finished)
    (hended : ((fresh id).after run).state.phase = .ended)
    (hn : ∀ e ∈ ((fresh id).after run).history later, ¬e.clears) :
    let s := (fresh id).after run
    let goesOn := ((s.history later).filterMap Entry.goesOn?).getLast? = some true
    Epilogue (s.after later) (s.history later) ∧
      ((s.after later).state.isPlaying = true ↔
        (s.after later).state.phase = .adBreak false ∨ goesOn) := by
  intro s goesOn
  obtain ⟨p, hp, hf⟩ := Option.map_eq_some_iff.mp hfinished
  have hstart : Epilogue s [] := by
    refine ⟨⟨p, hp, hf⟩, ?_, ?_⟩ <;> simp [s, hended, Phase.hasBegun]
  have h := hstart.after (coherent_after id run) hn
  refine ⟨h, State.isPlaying_iff.trans ?_⟩
  rw [or_comm, h.playing]

/-- A run that plays a video to its end. -/
def fullPlay : List Incident :=
  [.operation (.configure {}) {}, .operation (.init [{ id := "a", duration := 90 }]) {},
    .operation (.signal (.engine (.playStarted 0))) {},
    .operation (.signal (.engine .contentEnded)) {}]

/-- An ad after the video, as the ad software reports it. -/
def renderedPostroll : List Incident :=
  [.operation (.signal (.ads (.started (-1) {}))) {},
    .operation (.signal (.ads (.completed (-1) {}))) {}, .operation (.signal (.ads .breakEnded)) {}]

/-- The engine's report of an ad after the video leads back to the end, and that of the ad software
to playing. -/
theorem finished_goes_on_postroll :
    let s := (fresh "s").after fullPlay
    let native : List Incident :=
      [.operation (.signal (.engine (.adStarted 95))) {},
        .operation (.signal (.engine (.adCompleted 100))) {}]
    (s.after native).state.phase ≠ .playing ∧
      (s.after renderedPostroll).state.phase = .playing ∧
      (s.after renderedPostroll).state.isPlaying = true := by
  intro s native
  have hfinished : s.playlist.map (·.progress) = some .finished := by decide +kernel
  have hended : s.state.phase = .ended := by decide +kernel
  have hreports : ∀ e ∈ s.history native ++ s.history renderedPostroll,
      e.incident.isReport = true := by decide +kernel
  obtain ⟨hnative, -⟩ := finished_goes_on "s" fullPlay native hfinished hended fun e he =>
    Entry.not_clears (hreports e (List.mem_append_left _ he))
  obtain ⟨hrendered, hplaying⟩ :=
    finished_goes_on "s" fullPlay renderedPostroll hfinished hended fun e he =>
      Entry.not_clears (hreports e (List.mem_append_right _ he))
  exact ⟨mt hnative.playing.mp (by decide +kernel), hrendered.playing.mpr (by decide +kernel),
    hplaying.mpr (.inr (by decide +kernel))⟩

/-- The end of an ad break after the only video leaves the session playing, with no ad on screen and
a video that does not count as started. -/
theorem break_end_replays :
    let s := (fresh "s").after fullPlay
    let t := s.after renderedPostroll
    s.playlist.map (·.progress) = some .finished ∧ s.state.phase = .ended ∧
      t.playlist.map (·.progress) = some .finished ∧ t.state.isPlaying = true ∧
      t.state.inAdBreak = false ∧ t.state.playStarted = false := by
  decide +kernel

end Session
end Playback
