import Playback.Proofs.Tracking.Starts

/-! What the end of playback leaves. The video does not count as started any more and no timer runs,
so that its next start is reported and polling begins anew. An ad after the video is the exception:
where it is over before the video has ended, the session is at the end with the video still counting
as started. -/

namespace Playback

/-- An ad that stands after the video is over. -/
def Signal.endsPostroll : Signal → Bool
  | .engine (.adCompleted percent) => AdPosition.ofCompletion percent = .postroll
  | _ => false

/-- The entry ends an ad after the video while the video still counts as started. -/
def Entry.leavesStarted (e : Entry) : Bool :=
  match e.incident with
  | .operation (.signal signal) _ =>
    signal.endsPostroll && e.before.isActive && e.before.state.playStarted
  | _ => false

/-- An entry has left the video counting as started, and the starts have not been counted anew
since. -/
def LeftStarted (h : List Entry) : Prop :=
  Persists (·.leavesStarted = true) (·.resets = true) h

/-- A signal by which the video counts as started has it play, and the end of the video ends that. Of
all others only the end of an ad after the video asks for the end of playback. -/
theorem Circumstances.classify_bounds (c : Circumstances) (signal : Signal) :
    let d := (c.classify signal).delta
    d.playStarted = some true ∧ d.phase = some .playing ∨ d.playStarted = some false ∨
      d.playStarted = none ∧ signal.isTerminal = false ∧
        (d.phase = some .ended → signal.endsPostroll = true) := by
  cases signal with
  | engine signal => cases signal with
    | playStarted position =>
      simp only [classify, classifyEngine]
      split
      · exact .inr (.inr ⟨rfl, rfl, fun h => by cases h⟩)
      · exact .inl ⟨rfl, rfl⟩
    | percentWatched percent =>
      simp only [classify, classifyEngine]
      split <;> exact .inr (.inr ⟨rfl, rfl, fun h => by cases h⟩)
    | adCompleted percent =>
      refine .inr (.inr ⟨rfl, rfl, fun h => ?_⟩)
      simp only [classify, classifyEngine, Option.some.injEq] at h
      split at h
      · rename_i hpostroll
        exact decide_eq_true hpostroll
      · cases h
    | playCompleted | contentEnded => exact .inr (.inl rfl)
    | _ => exact .inr (.inr ⟨rfl, rfl, fun h => by cases h⟩)
  | ads signal => cases signal with
    | paused ad | resumed ad =>
      simp only [classify, classifyAds]
      split <;> exact .inr (.inr ⟨rfl, rfl, fun h => by cases h⟩)
    | _ => exact .inr (.inr ⟨rfl, rfl, fun h => by cases h⟩)

/-- A change to another phase than the end does not lead there. -/
theorem Phase.move_eq_ended {p target : Phase} (h : p.move target = .ended) :
    target = .ended ∨ p = .ended ∧ target ≠ .playing := by
  unfold move at h
  split at h
  · exact .inl h
  · rename_i hallowed
    refine .inr ⟨h, fun ht => ?_⟩
    rw [h, ht] at hallowed
    exact hallowed rfl

namespace Session

variable {s : Session}

/-- A signal that means the end, with the video counting as started, has found it so, or it is the
end of an ad after the video. -/
theorem classify_left {c : Circumstances} {signal : Signal}
    (hphase : (changeState (c.classify signal).delta c.state).phase = .ended)
    (hstarted : (changeState (c.classify signal).delta c.state).playStarted = true) :
    c.state.playStarted = true ∧ signal.isTerminal = false ∧
      (c.state.phase = .ended ∨ signal.endsPostroll = true) := by
  rw [changeState_phase] at hphase
  rw [changeState_playStarted] at hstarted
  rcases c.classify_bounds signal with ⟨-, hplay⟩ | hstop | ⟨hnone, hnot, hends⟩
  · rw [hplay] at hphase
    rcases Phase.move_eq_ended hphase with ht | ⟨-, ht⟩
    · cases ht
    · exact absurd rfl ht
  · rw [hstop] at hstarted
    cases hstarted
  · rw [hnone] at hstarted
    refine ⟨hstarted, hnot, ?_⟩
    cases ht : (c.classify signal).delta.phase with
    | none =>
      rw [ht] at hphase
      exact .inl hphase
    | some target =>
      rw [ht] at hphase
      rcases Phase.move_eq_ended hphase with rfl | ⟨hp, -⟩
      · exact .inr (hends ht)
      · exact .inl hp

theorem signal_left (h : Coherent s) (a : Answers) (signal : Signal)
    (hphase : (s.step a (.signal signal)).session.state.phase = .ended)
    (hstarted : (s.step a (.signal signal)).session.state.playStarted = true) :
    s.state.playStarted = true ∧ (signal.isTerminal && s.isActive) = false ∧
      (s.state.phase = .ended ∨ s.isActive = true ∧ signal.endsPostroll = true) := by
  cases hactive : s.isActive with
  | false =>
    rw [signal_inactive hactive] at hphase hstarted
    exact ⟨hstarted, Bool.and_false _, .inl hphase⟩
  | true =>
    obtain ⟨-, video, -, hv⟩ := h.plays hactive
    rcases signal_state h hactive hv a signal with hstate | ⟨-, -, hstate⟩
    · rw [hstate] at hphase hstarted
      obtain ⟨hs, hnot, hend⟩ := classify_left hphase hstarted
      exact ⟨hs, by rw [hnot, Bool.false_and], hend.imp_right fun hp => ⟨rfl, hp⟩⟩
    · -- The next video has been made ready, so the phase is not the end.
      rw [hstate] at hphase
      cases hphase

theorem started_undergo (h : Coherent s) {i : Incident} (hn : Entry.resets ⟨s, i⟩ = false)
    (hs : s.state.playStarted = true) : (s.undergo i).session.state.playStarted = true := by
  have hstep := undergo_starts h i
  rw [hn, hs] at hstep
  cases hafter : (s.undergo i).session.state.playStarted with
  | true => rfl
  | false => simp [hafter] at hstep

theorem undergo_left (h : Coherent s) (i : Incident)
    (hphase : (s.undergo i).session.state.phase = .ended)
    (hstarted : (s.undergo i).session.state.playStarted = true) :
    Entry.leavesStarted ⟨s, i⟩ = true ∨
      (s.state.phase = .ended ∧ s.state.playStarted = true) ∧ ¬Entry.resets ⟨s, i⟩ = true := by
  by_cases hsignal : ∃ signal a, i = .operation (.signal signal) a
  · obtain ⟨signal, a, rfl⟩ := hsignal
    obtain ⟨hs, hresets, hp | ⟨hactive, hpostroll⟩⟩ := signal_left h a signal hphase hstarted
    · exact .inr ⟨⟨hp, hs⟩, (Bool.eq_false_iff.mp hresets)⟩
    · exact .inl (by simp [Entry.leavesStarted, hpostroll, hactive, hs])
  · have hn : ∀ signal a, i ≠ .operation (.signal signal) a := fun signal a hi =>
      hsignal ⟨signal, a, hi⟩
    by_cases hc : Entry.clears ⟨s, i⟩
    · rw [clears_started hc] at hstarted
      cases hstarted
    · obtain ⟨backend, sticky, hstate⟩ := s.state_kept hn hc
      rw [hstate] at hphase hstarted
      exact .inr ⟨⟨hphase, hstarted⟩, mt (resets_iff_clears hn).mp hc⟩

theorem started_of_leavesStarted {e : Entry} (h : e.leavesStarted = true) :
    e.before.state.playStarted = true ∧ e.resets = false := by
  obtain ⟨s, i⟩ := e
  unfold Entry.leavesStarted at h
  split at h
  · rename_i signal a hi
    cases hi
    simp only [Bool.and_eq_true] at h
    refine ⟨h.2, ?_⟩
    cases signal with
    | engine signal => cases signal with
      | adCompleted percent => rfl
      | _ => cases h.1.1
    | ads signal => cases h.1.1
  · cases h

/-- A video that has been left counting as started does so still, and at the end no other does. -/
theorem leftStarted_after (id : String) (run : List Incident) :
    let s := (fresh id).after run
    let h := (fresh id).history run
    (LeftStarted h → s.state.playStarted = true) ∧
      (s.state.phase = .ended ∧ s.state.playStarted = true → LeftStarted h) := by
  induction run using List.reverseRecOn with
  | nil => exact ⟨fun h => absurd h not_persists_nil, fun h => (by cases h.1)⟩
  | append_singleton run i ih =>
    have hcoherent := coherent_after id run
    simp only [after_concat, history_concat, LeftStarted, persists_concat]
    constructor
    · -- Counting as started outlasts every entry by which the starts are not counted anew.
      rintro (hleft | ⟨hbefore, hn⟩)
      · obtain ⟨hs, hn⟩ := started_of_leavesStarted hleft
        exact started_undergo hcoherent hn hs
      · exact started_undergo hcoherent (Bool.eq_false_iff.mpr hn) (ih.1 hbefore)
    · rintro ⟨hphase, hstarted⟩
      exact (undergo_left hcoherent i hphase hstarted).imp_right fun h => ⟨ih.2 h.1, h.2⟩

/-- What comes of the end of playback in `s`, where `left` says whether the video has been left
counting as started. -/
structure AtEnd (s : Session) (left : Prop) : Prop where
  started : s.state.playStarted = true ↔ left
  polling : s.isPolling = true ↔ left ∧ s.tracking?.isSome = true
  /-- The next start of the video is reported and counted, and polling begins anew. -/
  counts : ¬left → s.isActive = true → ∀ a position, ∃ video, s.current? = some video ∧
    let o := s.step a (.signal (.engine (.playStarted position)))
    o.commands = [.event ⟨video.id, .playStarted, .playback position (video.percentAt position)⟩] ∧
      o.session.state = { s.state with phase := .playing, playStarted := true } ∧
      o.session.isPolling = s.tracking?.isSome
  /-- Nothing comes of a start of the video. -/
  ignores : left → ∀ a position,
    s.step a (.signal (.engine (.playStarted position))) = s.issue []

theorem start_counted {video : Video} (hactive : s.isActive = true) (hv : s.current? = some video)
    (hphase : s.state.phase = .ended) (hnot : s.state.playStarted = false) (a : Answers)
    (position : Int64) :
    s.step a (.signal (.engine (.playStarted position))) =
      issue
        { s with
          state := { s.state with phase := .playing, playStarted := true }
          poller := if s.tracking?.isSome then s.poller.startStandard (some a.now) else s.poller }
        [.event ⟨video.id, .playStarted, .playback position (video.percentAt position)⟩] := by
  have hmove : s.state.phase.move .playing = .playing := by
    rw [hphase]
    rfl
  have hmeaning : (Circumstances.classify ⟨s.state, video, s.tracking?.isSome⟩
      (.engine (.playStarted position))) =
      { event := some ⟨video.id, .playStarted, .playback position (video.percentAt position)⟩
        delta :=
          { phase := some .playing
            playStarted := some true
            timer := if s.tracking?.isSome then some .start else none } } := by
    simp [Circumstances.classify, Circumstances.classifyEngine, hnot,
      Circumstances.playbackEvent]
  simp only [step, handleSignal, hactive, hv, hmeaning, issue, Outcome.andThen_ok, apply_eq,
    change_eq, changeState, State.move, hmove]
  cases s.tracking?.isSome <;> rfl

theorem start_ignored (hstarted : s.state.playStarted = true) (a : Answers) (position : Int64) :
    s.step a (.signal (.engine (.playStarted position))) = s.issue [] := by
  simp only [step, handleSignal]
  split
  · simp only [Circumstances.classify, Circumstances.classifyEngine, hstarted]
    rfl
  · rfl

/-- At the end of playback the video does not count as started and no timer runs, so that the next
start is counted, unless the end of an ad after the video has left it counting as started. -/
theorem ended_counts (id : String) (run : List Incident)
    (h : ((fresh id).after run).state.phase = .ended) :
    AtEnd ((fresh id).after run) (LeftStarted ((fresh id).history run)) := by
  obtain ⟨hleft, hends⟩ := leftStarted_after id run
  have hpaced := paced_after id run
  have hcoherent := coherent_after id run
  have hstarted : ((fresh id).after run).state.playStarted = true ↔
      LeftStarted ((fresh id).history run) := ⟨fun hs => hends ⟨h, hs⟩, hleft⟩
  generalize (fresh id).after run = s at *
  refine ⟨hstarted, ?_, fun hn hactive a position => ?_, fun hl => start_ignored (hleft hl)⟩
  · rw [hpaced.isPolling_iff, hstarted]
  · have hnot : s.state.playStarted = false := Bool.eq_false_iff.mpr (mt hstarted.mp hn)
    obtain ⟨video, hv⟩ := Option.isSome_iff_exists.mp
      (hcoherent.current?_isSome (isActive_iff.mp hactive).1)
    have hstep := start_counted hactive hv h hnot a position
    have hthen : Paced (s.step a (.signal (.engine (.playStarted position)))).session :=
      hpaced.undergo hcoherent (.operation (.signal (.engine (.playStarted position))) a)
    have hpolling := hthen.isPolling_iff
    rw [hstep] at hpolling ⊢
    refine ⟨video, hv, rfl, rfl, Bool.eq_iff_iff.mpr (hpolling.trans ?_)⟩
    exact and_iff_right rfl

/-- A run that plays a live stream with avails up to its end, which is reported by `ends`. -/
def finale (ends : List EngineSignal) : List Incident :=
  [.operation (.configure {}) {},
    .operation (.init [{ id := "a", isLive := true, wantsAds := true }])
      { manifest := some { tracking := some ⟨"avails"⟩, id := "m" } },
    .operation (.signal (.engine (.playStarted 0))) {}] ++
    ends.map fun signal => .operation (.signal (.engine signal)) {}

/-- A stream that has ended is started again, and polled for again. Where it is the ad after it that
has ended, the timer has run on and the start is ignored. -/
theorem ended_counts_finale :
    let s := (fresh "s").after (finale [.contentEnded])
    let t := (fresh "s").after (finale [.adStarted 95, .adCompleted 100])
    s.state.phase = .ended ∧ s.isPolling = false ∧
      (s.step {} (.signal (.engine (.playStarted 0)))).session.isPolling = true ∧
      t.state.phase = .ended ∧ t.isPolling = true ∧
      t.step {} (.signal (.engine (.playStarted 0))) = t.issue [] := by
  intro s t
  have hs : s.state.phase = .ended := by decide +kernel
  have ht : t.state.phase = .ended := by decide +kernel
  have hcounts := ended_counts "s" (finale [.contentEnded]) hs
  have hignores := ended_counts "s" (finale [.adStarted 95, .adCompleted 100]) ht
  have hleft := hignores.started.mp (by decide +kernel)
  have hnot := mt hcounts.started.mpr (show s.state.playStarted ≠ true by decide +kernel)
  obtain ⟨video, -, -, -, hpolling⟩ := hcounts.counts hnot (by decide +kernel) {} 0
  refine ⟨hs, by decide +kernel, ?_, ht, ?_, hignores.ignores hleft {} 0⟩
  · exact hpolling.trans (by decide +kernel)
  · exact hignores.polling.mpr ⟨hleft, by decide +kernel⟩

/-- The end of an ad after the video ends playback, and yet the video counts as started, its timer
runs, and its next start is not reported. -/
theorem postroll_leaves_started :
    let s := (fresh "s").after (finale [.adStarted 95, .adCompleted 100])
    s.state.phase = .ended ∧ s.isActive = true ∧ s.state.playStarted = true ∧
      s.isPolling = true ∧ (s.step {} (.signal (.engine (.playStarted 0)))).commands = [] := by
  decide +kernel

end Session
end Playback
