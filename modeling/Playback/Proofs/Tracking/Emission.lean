import Playback.Proofs.Playlist.Course
import Playback.Proofs.Polling.Generation
import Playback.Proofs.Session.Orders

/-! What the events of a session and the fetches that it starts come from: a signal, or a message
from the background. Nothing else that happens to a session is reported. -/

namespace Playback

/-- The command is an event, or it starts a fetch of avails. -/
def Command.isTracking : Command → Bool
  | .event _ | .fetch _ _ => true
  | _ => false

/-- Nothing is reported, and no fetch is started. -/
def Outcome.Silent (o : Outcome) : Prop := ∀ c ∈ o.commands, c.isTracking = false

theorem Outcome.Silent.not_mem {o : Outcome} (h : o.Silent) {c : Command}
    (hc : c.isTracking = true) : c ∉ o.commands := by
  intro hm
  simp [h c hm] at hc

theorem Command.isTracking_of_isOrder {c : Command} (h : c.isOrder = true) :
    c.isTracking = false := by
  cases c with
  | event | fetch | overlay | report => cases h
  | _ => rfl

theorem Command.isTracking_of_forPlayback {c : Command} (h : c.forPlayback = true) :
    c.isTracking = false :=
  Command.isTracking_of_isOrder (Command.isOrder_of_forPlayback h)

theorem Outcome.Orders.silent {o : Outcome} (h : o.Orders) : o.Silent := fun c hc =>
  Command.isTracking_of_isOrder (h c hc)

theorem Playlist.mem_advance_events {p : Playlist} {positions : Positions} {e : Event}
    (h : e ∈ (p.advance positions).events) :
    e = completed p.current ∨ e = started (p.advance positions).playlist.current := by
  unfold advance at h ⊢
  split at h
  · cases h
  · rename_i hfinished
    rw [if_neg hfinished]
    cases hu : p.upcoming with
    | nil =>
      rw [hu] at h
      exact .inl (List.mem_singleton.mp h)
    | cons v rest =>
      rw [hu] at h
      rcases List.mem_cons.mp h with h | h
      · exact .inl h
      · exact .inr (List.mem_singleton.mp h)

namespace Session

variable {s : Session} {a : Answers}

theorem toEngine_silent (s : Session) (c : EngineCommand) :
    ∀ d ∈ s.toEngine c, d.isTracking = false := fun d hd =>
  Command.isTracking_of_forPlayback (s.toEngine_forPlayback c d hd)

theorem resolution_silent (a : Answers) (config : Config) (video : Video) :
    ∀ c ∈ (Resolution.of a config video).commands, c.isTracking = false := fun c hc =>
  Command.isTracking_of_forPlayback (resolution_forPlayback a config video c hc)

/-- Only a signal or a message from the background is reported or starts a fetch. -/
theorem tracking_of_mem {i : Incident} {c : Command} (hc : c ∈ (s.undergo i).commands)
    (ht : c.isTracking = true) :
    (∃ signal a, i = .operation (.signal signal) a) ∨
      ∃ handoff a, i = .operation (.handoff handoff) a := by
  rcases s.orders_or_comes_in i with h | h
  · exact absurd hc (h.silent.not_mem ht)
  · exact h

/-- The end of a video gives orders for playback, and reports that it is over and that the next one
starts. -/
theorem mem_advance {c : Command} (hc : c ∈ (s.advance a).commands) :
    c.forPlayback = true ∨ ∃ video e, s.current? = some video ∧ c = .event e ∧
      (e = Playlist.completed video ∨
        ∃ v, (s.advance a).session.current? = some v ∧ e = Playlist.started v) := by
  cases hconfig : s.config with
  | none => simp [advance_none (.inl hconfig), issue] at hc
  | some config => cases hp : s.playlist with
    | none => simp [advance_none (.inr hp), issue] at hc
    | some p =>
      have hcurrent : s.current? = some p.current := by simp [current?, hp]
      cases hn : p.next? with
      | none =>
        rw [advance_last hconfig hp hn] at hc ⊢
        obtain ⟨e, he, rfl⟩ := List.mem_map.mp hc
        refine .inr ⟨p.current, e, hcurrent, rfl, ?_⟩
        exact (Playlist.mem_advance_events he).imp_right fun h => ⟨_, rfl, h⟩
      | some next =>
        rw [advance_next hconfig hp hn] at hc ⊢
        simp only [issue, List.mem_append] at hc
        rcases hc with ((hc | hc) | hc) | hc
        · exact .inl (resolution_forPlayback a config next c hc)
        · obtain ⟨e, he, rfl⟩ := List.mem_map.mp hc
          refine .inr ⟨p.current, e, hcurrent, rfl, ?_⟩
          exact (Playlist.mem_advance_events he).imp_right fun h => ⟨_, rfl, h⟩
        · exact .inl (s.toEngine_forPlayback _ c hc)
        · exact .inl (s.toEngine_forPlayback _ c hc)

/-- A failure is answered by orders for playback, or it is shown and reported. -/
theorem mem_answerFailure {f : Failure} {c : Command} (hc : c ∈ s.answerFailure f) :
    c.forPlayback = true ∨ c = .overlay f.message ∨ c = .report f := by
  unfold answerFailure at hc
  split at hc
  · rcases List.mem_append.mp hc with hc | hc
    · exact .inl (s.toEngine_forPlayback _ c hc)
    · exact .inl (s.toEngine_forPlayback _ c hc)
  · right
    simpa using hc

theorem answerFailure_silent (f : Failure) (s : Session) :
    ∀ c ∈ s.answerFailure f, c.isTracking = false := by
  intro c hc
  rcases mem_answerFailure hc with horder | rfl | rfl
  · exact Command.isTracking_of_forPlayback horder
  · rfl
  · rfl

/-- What is told because of changes: orders for playback, events, and the failure that is among
them. -/
theorem apply_told {d : Delta} {c : Command} (hc : c ∈ (s.apply a d).commands) :
    c.forPlayback = true ∨ (∃ e, c = .event e) ∨
      ∃ f, d.failure = some f ∧ (c = .overlay f.message ∨ c = .report f) := by
  have htold : c ∈ d.failure.elim [] (s.change a d).answerFailure → c.forPlayback = true ∨
      (∃ e, c = .event e) ∨ ∃ f, d.failure = some f ∧ (c = .overlay f.message ∨ c = .report f) := by
    intro hm
    cases hf : d.failure with
    | none => simp [hf] at hm
    | some f =>
      rw [hf] at hm
      exact (mem_answerFailure hm).imp_right fun hn => .inr ⟨f, rfl, hn⟩
  rw [apply_eq] at hc
  dsimp only at hc
  split at hc
  · rcases List.mem_append.mp hc with hc | hc
    · exact htold hc
    · exact (mem_advance hc).imp_right fun ⟨_, e, _, he, _⟩ => .inl ⟨e, he⟩
  · exact htold hc

/-- What is told because of a signal: orders for playback, events, and the failure that it means. -/
theorem handleSignal_told {signal : Signal} {c : Command}
    (hc : c ∈ (s.handleSignal a signal).commands) :
    c.forPlayback = true ∨ (∃ e, c = .event e) ∨
      ∃ video f, (Circumstances.classify ⟨s.state, video, s.tracking?.isSome⟩ signal).delta.failure =
        some f ∧ (c = .overlay f.message ∨ c = .report f) := by
  unfold handleSignal at hc
  split at hc
  · rename_i video _ _
    rcases List.mem_append.mp hc with hc | hc
    · obtain ⟨e, -, rfl⟩ := List.mem_map.mp hc
      exact .inr (.inl ⟨e, rfl⟩)
    · exact (apply_told hc).imp_right (.imp_right fun hf => ⟨video, hf⟩)
  · cases hc

theorem change_current? (a : Answers) (d : Delta) (s : Session) :
    (s.change a d).current? = s.current? := by
  rw [change_eq]
  rfl

/-- The changes of a signal are reported only where they lead on in the playlist. -/
theorem mem_apply {d : Delta} {c : Command} (hc : c ∈ (s.apply a d).commands)
    (ht : c.isTracking = true) :
    d.advances = true ∧ ∃ video e, s.current? = some video ∧ c = .event e ∧
      (e = Playlist.completed video ∨
        ∃ v, (s.apply a d).session.current? = some v ∧ e = Playlist.started v) := by
  have htold : c ∉ d.failure.elim [] (s.change a d).answerFailure := by
    intro hm
    cases hf : d.failure with
    | none => simp [hf] at hm
    | some f =>
      rw [hf] at hm
      simp [answerFailure_silent f _ c hm] at ht
  rw [apply_eq] at hc ⊢
  dsimp only at hc ⊢
  split at hc
  · rename_i hadvances
    refine ⟨hadvances, ?_⟩
    rw [if_pos hadvances, ← change_current? a d s]
    rcases List.mem_append.mp hc with hc | hc
    · exact absurd hc htold
    · refine (mem_advance hc).resolve_left fun horder => ?_
      simp [Command.isTracking_of_forPlayback horder] at ht
  · exact absurd hc htold

/-- A signal is reported as what it means, or as the end of the current video and the start of the
next one. It starts no fetch. -/
theorem mem_handleSignal {signal : Signal} {c : Command}
    (hc : c ∈ (s.handleSignal a signal).commands) (ht : c.isTracking = true) :
    ∃ video e, s.isActive = true ∧ s.current? = some video ∧ c = .event e ∧
      ((Circumstances.classify ⟨s.state, video, s.tracking?.isSome⟩ signal).event = some e ∨
        signal = .engine .contentEnded ∧ (e = Playlist.completed video ∨
          ∃ v, (s.handleSignal a signal).session.current? = some v ∧ e = Playlist.started v)) := by
  unfold handleSignal at hc ⊢
  split at hc
  · rename_i video ha hv
    simp only [issue, Outcome.andThen_ok, List.mem_append] at hc ⊢
    rcases hc with hc | hc
    · obtain ⟨e, he, rfl⟩ := List.mem_map.mp hc
      exact ⟨video, e, ha, hv, rfl, .inl (by simpa using he)⟩
    · obtain ⟨hadvances, v, e, hv', rfl, he⟩ := mem_apply hc ht
      obtain rfl : video = v := Option.some.inj (hv.symm.trans hv')
      rw [ha, hv]
      exact ⟨video, e, rfl, rfl, rfl, .inr ⟨Circumstances.classify_advances.mp hadvances, he⟩⟩
  · simp [issue] at hc

/-- A tick of the timer starts a fetch from where the avails of the current video are asked for, and
avails that are there are reported for the current video. -/
theorem mem_handleHandoff {handoff : Handoff} {c : Command}
    (hc : c ∈ (s.handleHandoff a handoff).commands) :
    (∃ generation url, handoff = .tick generation ∧ s.poller.accepts generation = true ∧
        s.tracking? = some url ∧ c = .fetch url generation) ∨
      ∃ generation avails video, handoff = .fetched generation avails ∧
        s.poller.accepts generation = true ∧ avails ≠ [] ∧ s.current? = some video ∧
        c = .event ⟨video.id, .availsReceived,
          .avails avails (if s.engine.isSome then a.position else noPosition)⟩ := by
  unfold handleHandoff at hc
  cases handoff with
  | tick generation =>
    dsimp only at hc
    split at hc
    · rename_i url haccepts hurl
      exact .inl ⟨generation, url, rfl, haccepts, hurl, List.mem_singleton.mp hc⟩
    · simp [issue] at hc
  | fetched generation avails =>
    dsimp only at hc
    split at hc
    · rename_i video haccepts hv
      exact .inr ⟨generation, _, video, rfl, haccepts, List.cons_ne_nil _ _, hv,
        List.mem_singleton.mp hc⟩
    · simp [issue] at hc

end Session
end Playback
