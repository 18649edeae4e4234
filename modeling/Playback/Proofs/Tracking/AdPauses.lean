import Playback.Proofs.Session.Refusal
import Playback.Proofs.Tracking.Vocabulary

/-! The pauses of ads. An ad is reported as paused where the ad break comes to stand still, and as
resumed where it goes on because the ad does. So the phase tells at any time whether the last pause
has ended. -/

namespace Playback

/-- The signal that the ad on screen stands still, or else that it goes on. -/
def AdSignal.halt (still : Bool) (ad : Ad) : AdSignal := if still then .paused ad else .resumed ad

/-- The kind of the event that the ad on screen stands still, or else that it goes on. -/
def EventKind.halt (still : Bool) : EventKind := if still then .adPaused else .adResumed

namespace Entry

/-- The entry reports an event of the kind. -/
def reports (e : Entry) (kind : EventKind) : Prop :=
  ∃ event, .event event ∈ e.outcome.commands ∧ event.kind = kind

/-- The entry is a signal with which the ad break is over. -/
def leavesBreak (e : Entry) : Prop :=
  e.incident.signal?.isSome ∧ e.before.state.inAdBreak = true ∧
    e.outcome.session.state.inAdBreak = false

/-- The entry ends the pause of an ad: the ad goes on or another one starts, the break is over, or
everything that is played is ended. -/
def endsPause (e : Entry) : Prop :=
  e.reports .adResumed ∨ (∃ place, e.reports (.adStarted place)) ∨ e.leavesBreak ∨ e.clears

/-- What the entry reports of pauses and resumptions is what becomes of the phase. -/
structure Mirrors (e : Entry) : Prop where
  paused : e.reports .adPaused ↔ e.incident.signal?.isSome ∧
    e.before.state.phase = .adBreak false ∧ e.outcome.session.state.phase = .adBreak true
  resumed : e.reports .adResumed ↔ (∃ ad, e.incident.signal? = some (.ads (.resumed ad))) ∧
    e.before.state.phase = .adBreak true ∧ e.outcome.session.state.phase = .adBreak false
  /-- There is one event, and nothing else is told. -/
  alone : e.reports .adPaused ∨ e.reports .adResumed → ∃ event, e.outcome.commands = [.event event]

end Entry

theorem Phase.move_eq {p target q : Phase} (h : p.move target = q) (hne : q ≠ p) : target = q := by
  unfold move at h
  split at h
  · exact h
  · exact absurd h.symm hne

theorem State.adPaused_iff {s : State} : s.adPaused = true ↔ s.phase = .adBreak true :=
  decide_eq_true_iff

theorem State.inAdBreak_iff {s : State} : s.inAdBreak = true ↔ ∃ still, s.phase = .adBreak still := by
  unfold inAdBreak
  cases s.phase <;> simp

theorem State.adMoves_iff {s : State} :
    (s.inAdBreak = true ∧ (!s.adPaused) = true) ↔ s.phase = .adBreak false := by
  rw [State.inAdBreak_iff, Bool.not_eq_true', ← Bool.not_eq_true, State.adPaused_iff]
  constructor
  · rintro ⟨⟨still, hp⟩, hn⟩
    cases still with
    | false => exact hp
    | true => exact absurd hp hn
  · intro hp
    exact ⟨⟨false, hp⟩, by simp [hp]⟩

/-- The ad software stops and starts an ad only in an ad break that does the opposite. -/
theorem Circumstances.classify_halt (c : Circumstances) (still : Bool) (ad : Ad) :
    c.classify (.ads (.halt still ad)) =
      if c.state.phase = .adBreak (!still) then
        { event := some ⟨c.video.id, .halt still, .ad ad⟩
          delta := { phase := some (.adBreak still) } }
      else {} := by
  cases still with
  | false =>
    show (if c.state.adPaused then _ else _) = _
    simp only [State.adPaused_iff]
    rfl
  | true =>
    show (if c.state.inAdBreak ∧ !c.state.adPaused then _ else _) = _
    simp only [State.adMoves_iff]
    rfl

/-- What is reported about a signal that asks for an ad break: that an ad stands still, or else that
it goes on or starts. -/
theorem Circumstances.classify_break {c : Circumstances} {signal : Signal} {still : Bool}
    (h : (c.classify signal).delta.phase = some (.adBreak still)) :
    ∃ event, (c.classify signal).event = some event ∧
      (event.kind = .halt still ∨ still = false ∧ ∃ place, event.kind = .adStarted place) := by
  cases signal with
  | engine signal => cases signal with
    | playStarted | percentWatched | adCompleted =>
      simp only [classify, classifyEngine] at h
      split at h <;> cases h
    | adStarted percent =>
      cases h
      exact ⟨_, rfl, .inr ⟨rfl, _, rfl⟩⟩
    | _ => cases h
  | ads signal => cases signal with
    | started ordinal ad =>
      cases h
      exact ⟨_, rfl, .inr ⟨rfl, _, rfl⟩⟩
    | paused ad | resumed ad =>
      revert h
      simp only [classify, classifyAds]
      split <;> intro h <;> cases h
      exact ⟨_, rfl, .inl rfl⟩
    | _ => cases h

namespace Session

variable {s : Session} {a : Answers} {i : Incident}

theorem halt_eq {video : Video} (hactive : s.isActive = true) (hv : s.current? = some video)
    (a : Answers) (still : Bool) (ad : Ad) :
    s.step a (.signal (.ads (.halt still ad))) =
      if s.state.phase = .adBreak (!still) then
        issue { s with state := { s.state with phase := .adBreak still } }
          [.event ⟨video.id, .halt still, .ad ad⟩]
      else s.issue [] := by
  simp only [step, handleSignal, hactive, hv, Circumstances.classify_halt]
  split
  · rename_i hp
    have hmove : s.state.phase.move (.adBreak still) = .adBreak still := by
      rw [hp]
      rfl
    simp [issue, Outcome.andThen_ok, apply_eq, change_eq, changeState, State.move, hmove,
      changePositions, changePoller]
  · rfl

/-- What a signal means is reported. -/
theorem reports_meant {video : Video} {signal : Signal} {event : Event} (hactive : s.isActive = true)
    (hv : s.current? = some video) (a : Answers)
    (he : (Circumstances.classify ⟨s.state, video, s.tracking?.isSome⟩ signal).event = some event) :
    Entry.reports ⟨s, .operation (.signal signal) a⟩ event.kind := by
  refine ⟨event, ?_, rfl⟩
  show _ ∈ (s.handleSignal a signal).commands
  simp [handleSignal, hactive, hv, issue, Outcome.andThen_ok, he]

/-- What is reported because of a signal is reported by an active session. -/
theorem active_of_reports {signal : Signal} {kind : EventKind}
    (h : Entry.reports ⟨s, .operation (.signal signal) a⟩ kind) : s.isActive = true := by
  obtain ⟨event, hm, -⟩ := h
  obtain ⟨_, _, hactive, -⟩ := mem_handleSignal hm rfl
  exact hactive

theorem halted {video : Video} {still : Bool} (hactive : s.isActive = true)
    (hv : s.current? = some video) (hp : s.state.phase = .adBreak (!still)) (a : Answers) (ad : Ad) :
    s.undergo (.operation (.signal (.ads (.halt still ad))) a) =
      issue { s with state := { s.state with phase := .adBreak still } }
        [.event ⟨video.id, .halt still, .ad ad⟩] :=
  (halt_eq hactive hv a still ad).trans (if_pos hp)

/-- What an ad that is reported as standing still, or as going on, comes from. -/
theorem halt_of_reports {still : Bool} (hr : Entry.reports ⟨s, i⟩ (.halt still)) :
    ∃ video ad a, i = .operation (.signal (.ads (.halt still ad))) a ∧ s.isActive = true ∧
      s.current? = some video ∧ s.state.phase = .adBreak (!still) := by
  obtain ⟨event, hm, hkind⟩ := hr
  obtain ⟨video, hv, hfits⟩ := (words_of_mem hm).fits
  have hsignal : ∃ ad, i.signal? = some (.ads (.halt still ad)) := by
    rw [hkind] at hfits
    cases still <;> exact hfits.imp fun _ h => h.1
  obtain ⟨ad, hsignal⟩ := hsignal
  obtain ⟨a, rfl⟩ := Incident.signal?_eq_some.mp hsignal
  have hactive := active_of_reports ⟨event, hm, hkind⟩
  refine ⟨video, ad, a, rfl, hactive, hv, ?_⟩
  by_contra hp
  change _ ∈ (s.step a (.signal (.ads (.halt still ad)))).commands at hm
  rw [halt_eq hactive hv, if_neg hp] at hm
  cases hm

/-- An ad is reported as standing still, or as going on, exactly where the ad software says so and
the phase changes accordingly. -/
theorem reports_halt_iff (h : Coherent s) (i : Incident) (still : Bool) :
    Entry.reports ⟨s, i⟩ (.halt still) ↔ (∃ ad, i.signal? = some (.ads (.halt still ad))) ∧
      s.state.phase = .adBreak (!still) ∧ (s.undergo i).session.state.phase = .adBreak still := by
  constructor
  · intro hr
    obtain ⟨video, ad, a, rfl, hactive, hv, hp⟩ := halt_of_reports hr
    refine ⟨⟨ad, rfl⟩, hp, ?_⟩
    rw [halted hactive hv hp]
    rfl
  · rintro ⟨⟨ad, hi⟩, hp, hafter⟩
    obtain ⟨a, rfl⟩ := Incident.signal?_eq_some.mp hi
    cases hactive : s.isActive with
    | false =>
      change (s.step a _).session.state.phase = _ at hafter
      rw [signal_inactive hactive] at hafter
      have hsame : Phase.adBreak (!still) = .adBreak still := hp.symm.trans hafter
      cases still <;> cases hsame
    | true =>
      obtain ⟨-, video, -, hv⟩ := h.plays hactive
      refine ⟨⟨video.id, .halt still, .ad ad⟩, ?_, rfl⟩
      show _ ∈ (s.undergo _).commands
      rw [halted hactive hv hp]
      exact List.mem_singleton_self _

theorem halt_alone (still : Bool) (hr : Entry.reports ⟨s, i⟩ (.halt still)) :
    ∃ event, (s.undergo i).commands = [.event event] := by
  obtain ⟨video, ad, a, rfl, hactive, hv, hp⟩ := halt_of_reports hr
  rw [halted hactive hv hp]
  exact ⟨_, rfl⟩

theorem load_phase (a : Answers) (config : Config) (playlist : Playlist) (s : Session) :
    (s.load a config playlist).session.state.phase = s.state.phase.move .ready ∨
      (s.load a config playlist).session.state.phase = s.state.phase := by
  cases he : s.engine with
  | some e =>
    rw [load_held he]
    exact .inl rfl
  | none => cases hf : a.createFailure with
    | none =>
      rw [load_created he hf]
      exact .inl rfl
    | some err =>
      rw [load_failed he hf]
      exact .inr rfl

/-- No ad is on screen when everything that is played has been ended. -/
theorem clears_inAdBreak (hc : Entry.clears ⟨s, i⟩) :
    (s.undergo i).session.state.inAdBreak = false := by
  obtain ⟨op, a, rfl, rfl | ⟨config, playlist, ho⟩⟩ := hc
  · show s.release.session.state.inAdBreak = false
    rw [release_eq]
    rfl
  · show (s.step a op).session.state.inAdBreak = false
    rw [step_opens_session ho]
    unfold State.inAdBreak
    rcases load_phase a config playlist s.tornDown with hp | hp <;> rw [hp] <;> rfl

/-- While nothing is ended, the phase changes only to what a signal asks for, or to playing where the
next video is taken up. -/
theorem phase_changes (h : Coherent s) (hc : ¬Entry.clears ⟨s, i⟩)
    (hne : (s.undergo i).session.state.phase ≠ s.state.phase) :
    ∃ signal a video, i = .operation (.signal signal) a ∧ s.isActive = true ∧
      s.current? = some video ∧ ((s.undergo i).session.state.phase = .playing ∨
        (Circumstances.classify ⟨s.state, video, s.tracking?.isSome⟩ signal).delta.phase =
          some (s.undergo i).session.state.phase) := by
  cases hi : i.signal? with
  | none =>
    obtain ⟨backend, sticky, hstate⟩ := s.state_kept (Incident.signal?_eq_none.mp hi) hc
    exact absurd (congrArg State.phase hstate) hne
  | some signal =>
    obtain ⟨a, rfl⟩ := Incident.signal?_eq_some.mp hi
    change (s.step a (.signal signal)).session.state.phase ≠ s.state.phase at hne
    show ∃ signal' a' video, _ ∧ _ ∧ _ ∧ ((s.step a (.signal signal)).session.state.phase = _ ∨
      _ = some (s.step a (.signal signal)).session.state.phase)
    cases hactive : s.isActive with
    | false =>
      rw [signal_inactive hactive] at hne
      exact absurd rfl hne
    | true =>
      obtain ⟨-, video, -, hv⟩ := h.plays hactive
      refine ⟨signal, a, video, rfl, rfl, hv, ?_⟩
      rcases signal_state h hactive hv a signal with hstate | ⟨-, -, hstate⟩
      · right
        have hphase := congrArg State.phase hstate
        rw [changeState_phase] at hphase
        cases hd : (Circumstances.classify ⟨s.state, video, s.tracking?.isSome⟩
            signal).delta.phase with
        | none =>
          rw [hd] at hphase
          exact absurd hphase hne
        | some target =>
          rw [hd] at hphase
          exact congrArg some (Phase.move_eq hphase.symm hne)
      · exact .inl (congrArg State.phase hstate)

/-- An ad that starts is on screen where one can be. -/
theorem started_phase (h : Coherent s) {place : AdPosition}
    (hr : Entry.reports ⟨s, i⟩ (.adStarted place)) :
    (s.undergo i).session.state.phase = s.state.phase.move (.adBreak false) := by
  obtain ⟨event, hm, hkind⟩ := hr
  obtain ⟨video, hv, hfits⟩ := (words_of_mem hm).fits
  rw [hkind] at hfits
  have hstarts : ∃ signal, i.signal? = some signal ∧ signal ≠ .engine .contentEnded ∧
      (Circumstances.classify ⟨s.state, video, s.tracking?.isSome⟩ signal).delta.phase =
        some (.adBreak false) := by
    rcases hfits with ⟨percent, hi, -⟩ | ⟨ordinal, ad, hi, -⟩
    · exact ⟨_, hi, by simp, rfl⟩
    · exact ⟨_, hi, by simp, rfl⟩
  obtain ⟨signal, hi, hne, hphase⟩ := hstarts
  obtain ⟨a, rfl⟩ := Incident.signal?_eq_some.mp hi
  have hactive := active_of_reports ⟨event, hm, hkind⟩
  show (s.step a (.signal signal)).session.state.phase = _
  rcases signal_state h hactive hv a signal with hstate | ⟨hended, -⟩
  · rw [hstate, changeState_phase, hphase]
    rfl
  · exact absurd hended hne

/-- An ad break comes to stand still, or to go on, only with an event that says so. -/
theorem break_reported (h : Coherent s) {still : Bool} (hbefore : s.state.phase ≠ .adBreak still)
    (hafter : (s.undergo i).session.state.phase = .adBreak still) :
    Entry.reports ⟨s, i⟩ (.halt still) ∨
      still = false ∧ ∃ place, Entry.reports ⟨s, i⟩ (.adStarted place) := by
  have hc : ¬Entry.clears ⟨s, i⟩ := fun hc => by
    simpa [State.inAdBreak, hafter] using clears_inAdBreak hc
  obtain ⟨signal, a, video, rfl, hactive, hv, hplaying | hasked⟩ :=
    phase_changes h hc (fun heq => hbefore (heq.symm.trans hafter))
  · cases hplaying.symm.trans hafter
  rw [hafter] at hasked
  obtain ⟨event, hmeant, hkind⟩ := Circumstances.classify_break hasked
  have hr := reports_meant hactive hv a hmeant
  rcases hkind with hkind | ⟨hstill, place, hkind⟩
  · exact .inl (hkind ▸ hr)
  · exact .inr ⟨hstill, place, hkind ▸ hr⟩

/-- Whether the ad on screen stands still after an incident. -/
theorem still_undergo (h : Coherent s) (i : Incident) :
    (s.undergo i).session.state.phase = .adBreak true ↔
      Entry.reports ⟨s, i⟩ .adPaused ∨
        s.state.phase = .adBreak true ∧ ¬Entry.endsPause ⟨s, i⟩ := by
  constructor
  · intro hafter
    -- Had the pause been ended, the phase would be another one now, whatever has ended it.
    by_cases hbefore : s.state.phase = .adBreak true
    · refine .inr ⟨hbefore, ?_⟩
      rintro (hr | ⟨place, hr⟩ | ⟨-, -, hleft⟩ | hc)
      · have hmoves := ((reports_halt_iff h i false).mp hr).2.2
        cases hmoves.symm.trans hafter
      · have hmoves := started_phase h hr
        rw [hbefore, hafter] at hmoves
        cases hmoves
      · change (s.undergo i).session.state.inAdBreak = false at hleft
        simp [State.inAdBreak, hafter] at hleft
      · simpa [State.inAdBreak, hafter] using clears_inAdBreak hc
    · exact .inl ((break_reported h hbefore hafter).resolve_right fun hstarts => by cases hstarts.1)
  · rintro (hr | ⟨hbefore, hlasts⟩)
    · exact ((reports_halt_iff h i true).mp hr).2.2
    · by_contra hne
      have hc : ¬Entry.clears ⟨s, i⟩ := fun hc => hlasts (.inr (.inr (.inr hc)))
      obtain ⟨signal, a, video, rfl, -⟩ :=
        phase_changes h hc fun heq => hne (heq.trans hbefore)
      cases hbreak : (s.undergo (.operation (.signal signal) a)).session.state.inAdBreak with
      | false =>
        exact hlasts (.inr (.inr (.inl ⟨rfl, State.inAdBreak_iff.mpr ⟨true, hbefore⟩, hbreak⟩)))
      | true =>
        obtain ⟨still, hafter⟩ := State.inAdBreak_iff.mp hbreak
        cases still with
        | true => exact hne hafter
        | false =>
          rcases break_reported h (by simp [hbefore]) hafter with hr | ⟨-, hr⟩
          · exact hlasts (.inl hr)
          · exact hlasts (.inr (.inl hr))

/-- The ad on screen stands still exactly while the pause that was reported last has not ended. -/
theorem still_after (id : String) (run : List Incident) :
    ((fresh id).after run).state.phase = .adBreak true ↔
      Persists (·.reports .adPaused) Entry.endsPause ((fresh id).history run) := by
  induction run using List.reverseRecOn with
  | nil => exact iff_of_false (by simp [fresh]) not_persists_nil
  | append_singleton run i ih =>
    rw [after_concat, history_concat, persists_concat, ← ih]
    exact still_undergo (coherent_after id run) i

theorem mirrors (h : Coherent s) (i : Incident) : Entry.Mirrors ⟨s, i⟩ := by
  refine ⟨⟨fun hr => ?_, fun ⟨_, hmoves, hstill⟩ => ?_⟩, reports_halt_iff h i false, ?_⟩
  · obtain ⟨⟨ad, hi⟩, hphases⟩ := (reports_halt_iff h i true).mp hr
    exact ⟨by simp [hi], hphases⟩
  · have hbefore : s.state.phase ≠ .adBreak true := fun hp => by cases hmoves.symm.trans hp
    exact (break_reported h hbefore hstill).resolve_right fun hstarts => by cases hstarts.1
  · rintro (hr | hr)
    · exact halt_alone true hr
    · exact halt_alone false hr

theorem mirrors_of_mem {id : String} {run : List Incident} {e : Entry}
    (he : e ∈ (fresh id).history run) : e.Mirrors := by
  obtain ⟨before, -, -, hbefore⟩ := mem_history he
  exact mirrors (hbefore ▸ coherent_after id before) e.incident

/-- An ad is reported as paused exactly by the signals with which the ad break comes to stand still,
and as resumed exactly by those of the ad software with which it goes on. So between two pauses there
is always something that ends the first, and a resumption comes after a pause that nothing has ended
yet. -/
theorem ad_pauses_mirrored (id : String) (run : List Incident) :
    let h := (fresh id).history run
    (∀ e ∈ h, e.Mirrors) ∧
      (∀ past first between second rest, h = past ++ first :: (between ++ second :: rest) →
        first.reports .adPaused → second.reports .adPaused → ∃ x ∈ between, x.endsPause) ∧
      ∀ past e rest, h = past ++ e :: rest → e.reports .adResumed →
        Persists (·.reports .adPaused) Entry.endsPause past := by
  intro h
  refine ⟨fun e he => mirrors_of_mem he, fun past first between second rest hh hfirst hsecond => ?_,
    fun past e rest hh hr => ?_⟩
  · have hsplit : h = (past ++ first :: between) ++ second :: rest := by simpa using hh
    obtain ⟨before, -, -, hpast, hbefore⟩ := history_entry_split hsplit
    have hmem : second ∈ h := by simp [hsplit]
    have hmoves := ((mirrors_of_mem hmem).paused.mp hsecond).2.1
    by_contra hlasts
    have hstill : ((fresh id).after before).state.phase = .adBreak true := by
      rw [still_after, hpast]
      exact ⟨past, first, between, rfl, hfirst, fun x hx hends => hlasts ⟨x, hx, hends⟩⟩
    rw [hbefore, hstill] at hmoves
    cases hmoves
  · obtain ⟨before, -, -, hpast, hbefore⟩ := history_entry_split hh
    have hmem : e ∈ h := by simp [hh]
    have hstill := ((mirrors_of_mem hmem).resumed.mp hr).2.1
    rw [hbefore, still_after, hpast] at hstill
    exact hstill

/-- The start of an ad in a run. -/
def adOnScreen : List Incident :=
  [.operation (.configure {}) {}, .operation (.init [{ id := "a", duration := 90 }]) {},
    .operation (.signal (.engine (.playStarted 0))) {},
    .operation (.signal (.ads (.started 1 { id := "x" }))) {}]

/-- Where an ad is paused, goes on, and is paused again, the first pause ends between the two, and
the ad goes on after a pause that had not ended. -/
theorem ad_pauses_mirrored_twice :
    let halt (still : Bool) : Incident := .operation (.signal (.ads (.halt still { id := "x" }))) {}
    let past := (fresh "s").history adOnScreen
    let first : Entry := ⟨(fresh "s").after adOnScreen, halt true⟩
    let onward : Entry := ⟨first.outcome.session, halt false⟩
    let second : Entry := ⟨onward.outcome.session, halt true⟩
    first.reports .adPaused ∧ onward.reports .adResumed ∧ second.reports .adPaused ∧
      (∃ x ∈ [onward], x.endsPause) ∧
      Persists (·.reports .adPaused) Entry.endsPause (past ++ [first]) := by
  intro halt past first onward second
  obtain ⟨-, hends, hafter⟩ :=
    ad_pauses_mirrored "s" (adOnScreen ++ [halt true, halt false, halt true])
  have hh : (fresh "s").history (adOnScreen ++ [halt true, halt false, halt true]) =
      past ++ [first, onward, second] := history_append _ _ _
  have hfirst : first.reports .adPaused :=
    ⟨⟨"a", .adPaused, .ad { id := "x" }⟩, by decide +kernel, rfl⟩
  have honward : onward.reports .adResumed :=
    ⟨⟨"a", .adResumed, .ad { id := "x" }⟩, by decide +kernel, rfl⟩
  have hsecond : second.reports .adPaused :=
    ⟨⟨"a", .adPaused, .ad { id := "x" }⟩, by decide +kernel, rfl⟩
  exact ⟨hfirst, honward, hsecond, hends past first [onward] second [] hh hfirst hsecond,
    hafter (past ++ [first]) onward [second] (by simpa using hh) honward⟩

end Session
end Playback
