import Playback.Proofs.Session.Finality
import Playback.Proofs.Session.Refusal
import Playback.Proofs.Session.Succession
import Playback.Proofs.Tracking.Emission

/-! How often a video is reported as started. Between two points at which counting begins anew it is
reported at most once, and the state of a session says whether it has been. -/

namespace Playback

/-- The command reports that a video starts. -/
def Command.isStart : Command → Bool
  | .event ⟨_, .playStarted, _⟩ => true
  | _ => false

def startsIn (commands : List Command) : Nat := commands.countP Command.isStart

/-- The video is over with the signal. -/
def Signal.isTerminal : Signal → Bool
  | .engine (.playCompleted _) | .engine .contentEnded => true
  | _ => false

/-- The starts are counted anew from the entry on: a release, a start of playback past its checks,
or the end of a video of an active session. -/
def Entry.resets (e : Entry) : Bool :=
  match e.incident with
  | .operation .release _ => true
  | .operation (.signal signal) _ => signal.isTerminal && e.before.isActive
  | _ => e.opens

/-- What has happened since the starts were last counted anew. -/
def sinceReset (h : List Entry) : List Entry :=
  h.foldl (fun stretch e => if e.resets then [e] else stretch ++ [e]) []

def starts (h : List Entry) : Nat := startsIn (h.flatMap (·.outcome.commands))

@[simp] theorem startsIn_nil : startsIn [] = 0 := rfl

theorem startsIn_append (cs ds : List Command) :
    startsIn (cs ++ ds) = startsIn cs + startsIn ds := List.countP_append

theorem Command.isTracking_of_isStart {c : Command} (h : c.isStart = true) :
    c.isTracking = true := by
  cases c with
  | event e => rfl
  | _ => cases h

theorem startsIn_eq_zero {cs : List Command} (h : ∀ c ∈ cs, c.isTracking = false) :
    startsIn cs = 0 := by
  refine List.countP_eq_zero.mpr fun c hc hs => ?_
  have ht := Command.isTracking_of_isStart hs
  rw [h c hc] at ht
  cases ht

theorem sinceReset_concat (h : List Entry) (e : Entry) :
    sinceReset (h ++ [e]) = if e.resets then [e] else sinceReset h ++ [e] := by
  simp [sinceReset, List.foldl_append]

/-- A start is reported exactly where a signal makes the session count one. -/
theorem Circumstances.classify_starts (c : Circumstances) (signal : Signal) :
    (if signal.isTerminal then 0 else c.state.playStarted.toNat) +
        startsIn ((c.classify signal).event.toList.map .event) =
      ((c.classify signal).delta.playStarted.getD c.state.playStarted).toNat := by
  cases signal with
  | engine signal => cases signal with
    | playStarted position =>
      simp only [classify, classifyEngine]
      cases c.state.playStarted <;> rfl
    | percentWatched percent =>
      show c.state.playStarted.toNat + _ = _
      simp only [classify, classifyEngine]
      split <;> rfl
    | fault f =>
      show c.state.playStarted.toNat + _ = _
      simp only [classify, classifyEngine]
      split <;> rfl
    | _ => rfl
  | ads signal => cases signal with
    | paused ad | resumed ad =>
      show c.state.playStarted.toNat + _ = _
      simp only [classify, classifyAds]
      split <;> rfl
    | _ => rfl

namespace Session

variable {s : Session} {a : Answers}

/-- Where nothing is counted, the end of a video counts the start of the next one, if there is
one. -/
theorem advance_starts (h : s.state.playStarted = false) (a : Answers) :
    startsIn (s.advance a).commands = (s.advance a).session.state.playStarted.toNat := by
  cases hc : s.config with
  | none => simp [advance_none (.inl hc), issue, h]
  | some config => cases hp : s.playlist with
    | none => simp [advance_none (.inr hp), issue, h]
    | some p => cases hn : p.next? with
      | none =>
        rw [advance_last hc hp hn]
        simp only [issue, passed, h, p.advance_events, hn]
        split <;> rfl
      | some next =>
        rw [advance_next hc hp hn]
        obtain ⟨hevents, -⟩ := p.advance_setNext hn (Resolution.of a config next).video s.positions
        have hasked := startsIn_eq_zero (resolution_silent a config next)
        have hload := fun c => startsIn_eq_zero (s.toEngine_silent c)
        simp only [issue, wentOn, succession, hevents, startsIn_append, hasked, hload]
        rfl

theorem apply_starts (a : Answers) {d : Delta} (hd : d.advances = true → d.playStarted = some false)
    (s : Session) :
    (d.playStarted.getD s.state.playStarted).toNat + startsIn (s.apply a d).commands =
      (s.apply a d).session.state.playStarted.toNat := by
  have htold : startsIn (d.failure.elim [] (s.change a d).answerFailure) = 0 := by
    cases d.failure with
    | none => rfl
    | some f => exact startsIn_eq_zero (answerFailure_silent f _)
  have hchange : (s.change a d).state.playStarted = d.playStarted.getD s.state.playStarted := by
    rw [change_eq]
    exact changeState_playStarted d s.state
  rw [apply_eq]
  dsimp only
  split
  · -- The video has ended, so nothing is counted when the next one is taken up.
    rename_i hadvances
    rw [hd hadvances] at hchange ⊢
    have hadvance := advance_starts hchange a
    simp [startsIn_append, htold, hadvance]
  · simp [issue, htold, hchange]

theorem handleSignal_starts (h : Coherent s) (a : Answers) (signal : Signal) :
    (if signal.isTerminal && s.isActive then 0 else s.state.playStarted.toNat) +
        startsIn (s.handleSignal a signal).commands =
      (s.handleSignal a signal).session.state.playStarted.toNat := by
  cases hactive : s.isActive with
  | false => simp [handleSignal, hactive, issue]
  | true =>
    have hheld := (isActive_iff.mp hactive).1
    obtain ⟨video, hv⟩ := Option.isSome_iff_exists.mp (h.current?_isSome hheld)
    have hclassified := Circumstances.classify_starts ⟨s.state, video, s.tracking?.isSome⟩ signal
    have hadvances : (Circumstances.classify ⟨s.state, video, s.tracking?.isSome⟩
        signal).delta.advances = true →
        (Circumstances.classify ⟨s.state, video, s.tracking?.isSome⟩
          signal).delta.playStarted = some false := by
      intro hd
      cases Circumstances.classify_advances.mp hd
      rfl
    have happly := apply_starts a hadvances s
    simp only [handleSignal, hactive, hv, issue, Outcome.andThen_ok, startsIn_append, Bool.and_true]
    rw [← happly, ← hclassified, Nat.add_assoc]

theorem clears_started {i : Incident} (hc : Entry.clears ⟨s, i⟩) :
    (s.undergo i).session.state.playStarted = false := by
  obtain ⟨op, a, rfl, rfl | ⟨config, playlist, ho⟩⟩ := hc
  · exact (over_release s).playStarted
  · obtain ⟨phase, engine, created, hload⟩ := s.tornDown.load_session a config playlist
    show (s.step a op).session.state.playStarted = false
    rw [step_opens_session ho, hload]
    rfl

/-- Apart from signals, the starts are counted anew where all that is played is ended. -/
theorem resets_iff_clears {i : Incident} (hn : ∀ signal a, i ≠ .operation (.signal signal) a) :
    Entry.resets ⟨s, i⟩ = true ↔ Entry.clears ⟨s, i⟩ := by
  cases i with
  | wait limit => simp [Entry.resets, Entry.opens, Entry.clears]
  | operation op a =>
    have hclears : Entry.clears ⟨s, .operation op a⟩ ↔
        op = .release ∨ ∃ config playlist, s.Opens op config playlist := by
      constructor
      · rintro ⟨op', a', hi, h⟩
        cases hi
        exact h
      · exact fun h => ⟨op, a, rfl, h⟩
    rw [hclears, ← opens_iff (a := a)]
    cases op with
    | release => simp [Entry.resets]
    | signal signal => exact absurd rfl (hn signal a)
    | _ => simp [Entry.resets]

/-- Only signals report a start. -/
theorem startsIn_undergo {i : Incident} (hn : ∀ signal a, i ≠ .operation (.signal signal) a) :
    startsIn (s.undergo i).commands = 0 := by
  refine List.countP_eq_zero.mpr fun c hc hs => ?_
  have ht := Command.isTracking_of_isStart hs
  rcases tracking_of_mem hc ht with ⟨signal, a, hi⟩ | ⟨handoff, a, rfl⟩
  · exact hn signal a hi
  · rcases mem_handleHandoff hc with ⟨_, _, _, _, _, rfl⟩ | ⟨_, _, _, _, _, _, _, rfl⟩
    · cases hs
    · cases hs

/-- One incident: what counts as started before it and is not counted anew, together with the starts
that it reports, is what counts as started after it. -/
theorem undergo_starts (h : Coherent s) (i : Incident) :
    (if Entry.resets ⟨s, i⟩ then 0 else s.state.playStarted.toNat) +
        startsIn (s.undergo i).commands =
      (s.undergo i).session.state.playStarted.toNat := by
  by_cases hsignal : ∃ signal a, i = .operation (.signal signal) a
  · obtain ⟨signal, a, rfl⟩ := hsignal
    exact handleSignal_starts h a signal
  · have hn : ∀ signal a, i ≠ .operation (.signal signal) a := fun signal a hi =>
      hsignal ⟨signal, a, hi⟩
    rw [startsIn_undergo hn]
    by_cases hc : Entry.clears ⟨s, i⟩
    · rw [if_pos ((resets_iff_clears hn).mpr hc), clears_started hc]
      rfl
    · obtain ⟨backend, sticky, hstate⟩ := s.state_kept hn hc
      rw [if_neg (mt (resets_iff_clears hn).mp hc), hstate]
      rfl

theorem starts_cons (e : Entry) (h : List Entry) :
    starts (e :: h) = startsIn e.outcome.commands + starts h := by
  simp [starts, startsIn_append]

theorem starts_concat (h : List Entry) (e : Entry) :
    starts (h ++ [e]) = starts h + startsIn e.outcome.commands := by
  simp [starts, startsIn_append]

/-- As long as the starts are not counted anew, a start is reported only where none counts. -/
theorem starts_stretch (h : Coherent s) {run : List Incident}
    (hn : ∀ e ∈ s.history run, e.resets = false) :
    s.state.playStarted.toNat + starts (s.history run) =
      (s.after run).state.playStarted.toNat := by
  induction run generalizing s with
  | nil => rfl
  | cons i run ih =>
    obtain ⟨hfirst, hrest⟩ := List.forall_mem_cons.mp hn
    have hstep := undergo_starts h i
    rw [hfirst, if_neg Bool.false_ne_true] at hstep
    rw [history_cons, starts_cons, after_cons, ← ih (h.undergo i) hrest, ← hstep, Nat.add_assoc]
    rfl

/-- What has been reported since the starts were last counted anew is what counts. -/
theorem starts_sinceReset (id : String) (run : List Incident) :
    starts (sinceReset ((fresh id).history run)) =
      ((fresh id).after run).state.playStarted.toNat := by
  induction run using List.reverseRecOn with
  | nil => rfl
  | append_singleton run i ih =>
    have hstep := undergo_starts (coherent_after id run) i
    rw [history_concat, sinceReset_concat, after_concat, ← hstep]
    -- The last incident is where counting begins anew, or it prolongs the stretch before it.
    split
    · rw [starts_cons, Nat.add_comm]
      rfl
    · rw [starts_concat, ih]
      rfl

/-- In a stretch of a run in which the starts are counted anew at most at its beginning, at most one
is reported. -/
theorem starts_le_one (id : String) {run : List Incident} {past stretch rest : List Entry}
    {first : Entry} (h : (fresh id).history run = past ++ (first :: stretch ++ rest))
    (hn : ∀ e ∈ stretch, e.resets = false) : starts (first :: stretch) ≤ 1 := by
  obtain ⟨before, later, -, -, hlater⟩ := history_split h
  obtain ⟨during, -, -, hduring, -⟩ := history_split hlater
  have hcoherent := coherent_after id before
  cases during with
  | nil => cases hduring
  | cons i during =>
    rw [history_cons] at hduring
    obtain ⟨rfl, rfl⟩ := List.cons.inj hduring
    -- What the first incident and the stretch report adds up to what counts at the end.
    have hfirst := undergo_starts hcoherent i
    have hrest := starts_stretch (hcoherent.undergo i) hn
    have hbound := Bool.toNat_le
      (((((fresh id).after before).undergo i).session.after during).state.playStarted)
    rw [starts_cons]
    show startsIn (((fresh id).after before).undergo i).commands + _ ≤ 1
    omega

/-- Since the starts were last counted anew one has been reported if the video counts as started,
and none otherwise. No stretch of a run holds two where they are counted anew at most at its
beginning. -/
theorem starts_counted (id : String) (run : List Incident) :
    let s := (fresh id).after run
    let h := (fresh id).history run
    starts (sinceReset h) = (if s.state.playStarted then 1 else 0) ∧
      ∀ past first stretch rest, h = past ++ (first :: stretch ++ rest) →
        (∀ e ∈ stretch, e.resets = false) → starts (first :: stretch) ≤ 1 := by
  intro s h
  refine ⟨?_, fun past first stretch rest hsplit hn => starts_le_one id hsplit hn⟩
  show starts (sinceReset ((fresh id).history run)) = _
  rw [starts_sinceReset]
  cases s.state.playStarted <;> rfl

end Session
end Playback
