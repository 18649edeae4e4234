import Playback.Proofs.Session.Frame

/-! What a session knows of the engine that it holds. -/

namespace Playback.Session

/-- The parts of a session agree about the engine. -/
structure Coherent (s : Session) : Prop where
  /-- The engine that is held is the last one made. -/
  serial : ∀ e, s.engine = some e → e.serial = s.created
  backend : ∀ e, s.engine = some e → e.backend = s.state.backend
  configured : s.engine.isSome → s.config.isSome
  listed : s.engine.isSome → s.playlist.isSome
  /-- Only an engine that is held can be released later. -/
  pending : s.releasePending → s.engine.isSome

namespace Coherent

variable {s : Session}

theorem of_none (he : s.engine = none) (hp : s.releasePending = false) : Coherent s :=
  ⟨by simp [he], by simp [he], by simp [he], by simp [he], by simp [hp]⟩

theorem fresh (id : String) : Coherent (fresh id) := of_none rfl rfl

theorem spares {o : Outcome} (h : Coherent s) (hs : Spares s o) : Coherent o.session := by
  refine ⟨fun e he => ?_, fun e he => ?_, fun he => ?_, fun he => ?_, fun hp => ?_⟩
  · rw [hs.engine] at he
    rw [h.serial e he, hs.created]
  · rw [hs.engine] at he
    rw [h.backend e he, hs.backend]
  · rw [hs.engine] at he
    exact hs.configured (h.configured he)
  · rw [hs.engine] at he
    exact hs.listed (h.listed he)
  · rw [hs.pending] at hp
    rw [hs.engine]
    exact h.pending hp

theorem tornDown (h : Coherent s) (hc : s.config.isSome) : Coherent s.tornDown := by
  cases hp : s.state.inPip with
  | false => exact of_none (by simp [Session.tornDown, hp]) rfl
  | true =>
    refine ⟨?_, ?_, fun _ => hc, ?_, by simp [Session.tornDown]⟩
    all_goals simp only [Session.tornDown, hp, ↓reduceIte]
    · exact h.serial
    · exact h.backend
    · exact h.listed

theorem load {config : Config} (h : Coherent s) (a : Answers) (hc : s.config.isSome)
    (hp : s.releasePending = false) (playlist : Playlist) :
    Coherent (s.load a config playlist).session := by
  cases he : s.engine with
  | some e =>
    rw [load_held he]
    exact ⟨h.serial, h.backend, fun _ => hc, fun _ => rfl, h.pending⟩
  | none =>
    cases hf : a.createFailure with
    | none =>
      rw [load_created he hf]
      exact ⟨by simp [issue], by simp [issue, State.move], fun _ => hc, fun _ => rfl, fun _ => rfl⟩
    | some e =>
      rw [load_failed he hf]
      exact of_none he hp

theorem switchBackend {target : Backend} {e : Engine} {video : Video}
    (hs : s.Switches target e video) (h : Coherent s) (a : Answers) :
    Coherent (s.switchBackend a target).session := by
  obtain ⟨positions, hr⟩ := s.record_eq a.position
  have hheld : s.engine.isSome := by simp [hs.engine]
  cases hf : a.createFailure with
  | none =>
    rw [switchBackend_created hs hf, hr]
    exact ⟨by simp [issue], by simp [issue], fun _ => h.configured hheld, fun _ => h.listed hheld,
      fun _ => rfl⟩
  | some err =>
    rw [switchBackend_failed hs hf, hr]
    exact of_none rfl hs.pending

theorem release (h : Coherent s) : Coherent s.release.session := by
  rw [release_eq]
  cases he : s.engine with
  | none =>
    have hp : s.releasePending = false := by
      cases hp : s.releasePending with
      | false => rfl
      | true => simpa [he] using h.pending hp
    exact of_none (by simp [issue, Session.tornDown, he]) (by simp [issue, hp])
  | some e =>
    have hheld : s.engine.isSome := by simp [he]
    have ht := h.tornDown (h.configured hheld)
    refine ⟨ht.serial, ht.backend, ht.configured, ht.listed, fun hp => ?_⟩
    have hpip : s.state.inPip = true := hp
    simp [issue, Session.tornDown, hpip, he]

theorem exitPip (h : Coherent s) : Coherent s.exitPip.session := by
  rw [exitPip_eq]
  cases hp : s.releasePending with
  | true => exact of_none rfl rfl
  | false => exact ⟨h.serial, h.backend, h.configured, h.listed, by simp [issue]⟩

theorem undergo (h : Coherent s) (i : Incident) : Coherent (s.undergo i).session := by
  cases s.bearing i with
  | spares hs => exact h.spares hs
  | @opens op a config playlist ho =>
    have hc : s.config.isSome := by simp [ho.config]
    change Coherent (s.step a op).session
    rw [step_opens ho]
    exact (h.tornDown hc).load a hc rfl playlist
  | switches hs => exact switchBackend hs h _
  | release => exact h.release
  | exitPip => exact h.exitPip

theorem after {s : Session} (h : Coherent s) (run : List Incident) : Coherent (s.after run) := by
  induction run generalizing s with
  | nil => exact h
  | cons i run ih => exact ih (h.undergo i)

end Coherent

/-- The parts of a session agree about the engine after every run. -/
theorem coherent_after (id : String) (run : List Incident) : Coherent ((fresh id).after run) :=
  after_induction run id (Coherent.fresh id) fun _ i h => h.undergo i

end Playback.Session
