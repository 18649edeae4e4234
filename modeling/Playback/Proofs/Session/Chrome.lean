import Playback.Proofs.Session.Quiescence
import Playback.Proofs.Tracking.Emission

/-! The chrome around the picture. It is shown and hidden by the calls that begin and end
Picture-in-Picture, and by nothing else, so it is hidden only there and never stays so. -/

namespace Playback

/-- What becomes of the chrome: each time it is shown or hidden, in order. -/
def visibilities (log : List Command) : List Bool :=
  log.filterMap fun
    | .chrome visible => some visible
    | _ => none

/-- The chrome is to be hidden in Picture-in-Picture; without a configuration it is. -/
def Session.hidesChrome (s : Session) : Bool := (s.config.map (·.hideChromeInPip)).getD true

/-- Whether the entry shows the chrome or hides it, if it does either. -/
def Entry.visibility? (e : Entry) : Option Bool :=
  match e.incident with
  | .operation .enterPip _ => if e.before.hidesChrome then some false else none
  | .operation .exitPip _ => some true
  | _ => none

theorem mem_visibilities {cs : List Command} {visible : Bool} :
    visible ∈ visibilities cs ↔ .chrome visible ∈ cs := by
  refine List.mem_filterMap.trans ⟨?_, fun h => ⟨_, h, rfl⟩⟩
  rintro ⟨c, hc, hvisible⟩
  cases c with
  | chrome v =>
    cases hvisible
    exact hc
  | _ => cases hvisible

theorem visibilities_eq_nil {cs : List Command} (h : ∀ c ∈ cs, c.isChrome = false) :
    visibilities cs = [] := by
  refine List.eq_nil_iff_forall_not_mem.mpr fun visible hv => ?_
  cases h _ (mem_visibilities.mp hv)

theorem Command.isChrome_of_forPlayback {c : Command} (h : c.forPlayback = true) :
    c.isChrome = false := by
  cases c with
  | create | createFailed | engine | resolve => rfl
  | _ => cases h

namespace Session

variable {s : Session}

theorem handleSignal_chrome (a : Answers) (signal : Signal) (s : Session) :
    ∀ c ∈ (s.handleSignal a signal).commands, c.isChrome = false := by
  intro c hc
  rcases handleSignal_told hc with horder | ⟨e, rfl⟩ | ⟨video, f, -, rfl | rfl⟩
  · exact Command.isChrome_of_forPlayback horder
  · rfl
  · rfl
  · rfl

theorem handleHandoff_chrome (a : Answers) (handoff : Handoff) (s : Session) :
    ∀ c ∈ (s.handleHandoff a handoff).commands, c.isChrome = false := by
  intro c hc
  rcases mem_handleHandoff hc with ⟨_, _, -, -, -, rfl⟩ | ⟨_, _, _, -, -, -, -, rfl⟩ <;> rfl

/-- An incident shows or hides the chrome once, or leaves it as it is. -/
theorem visibilities_undergo (s : Session) (i : Incident) :
    visibilities (s.undergo i).commands = (Entry.visibility? ⟨s, i⟩).toList := by
  cases hi : i.forPlayback with
  | true =>
    have hnone : Entry.visibility? ⟨s, i⟩ = none := by
      cases i with
      | wait limit => rfl
      | operation op a => cases op with
        | enterPip | exitPip => cases hi
        | _ => rfl
    rw [hnone, visibilities_eq_nil fun c hc =>
      Command.isChrome_of_forPlayback (s.undergo_forPlayback hi c hc)]
    rfl
  | false =>
    -- Four incidents do more than serve playback; the other branch is excluded.
    unfold Incident.forPlayback at hi
    split at hi
    · show visibilities s.enterPip.commands = _
      unfold enterPip Entry.visibility? hidesChrome
      cases (s.config.map (·.hideChromeInPip)).getD true <;> rfl
    · have hengine := visibilities_eq_nil fun c hc =>
        Command.isChrome_of_forPlayback (s.toEngine_forPlayback .release c hc)
      show visibilities s.exitPip.commands = [true]
      rw [exitPip_eq]
      split
      · exact congrArg (true :: ·) hengine
      · rfl
    · exact visibilities_eq_nil (handleSignal_chrome _ _ s)
    · exact visibilities_eq_nil (handleHandoff_chrome _ _ s)
    · cases hi

theorem visibilities_log (s : Session) (run : List Incident) :
    visibilities (s.log run) = (s.history run).filterMap Entry.visibility? :=
  filterMap_log (P := fun _ => True) (fun _ _ h => h) (fun s i _ => visibilities_undergo s i)
    trivial run

/-- Outside Picture-in-Picture an incident has shown the chrome, or nothing has changed. -/
theorem visibility?_outside {i : Incident} (h : (s.undergo i).session.state.inPip = false) :
    Entry.visibility? ⟨s, i⟩ = some true ∨
      Entry.visibility? ⟨s, i⟩ = none ∧ s.state.inPip = false := by
  rw [inPip_undergo] at h
  cases i with
  | wait limit => exact .inr ⟨rfl, h⟩
  | operation op a => cases op with
    | enterPip => cases h
    | exitPip => exact .inl rfl
    | _ => exact .inr ⟨rfl, h⟩

/-- Outside Picture-in-Picture the chrome has been shown last, if anything has become of it. -/
theorem shown_after (id : String) (run : List Incident)
    (h : ((fresh id).after run).state.inPip = false) :
    ∀ visible ∈ (((fresh id).history run).filterMap Entry.visibility?).getLast?,
      visible = true := by
  induction run using List.reverseRecOn with
  | nil => simp
  | append_singleton run i ih =>
    rw [after_concat] at h
    rw [history_concat, getLast?_filterMap_concat]
    rcases visibility?_outside h with hshown | ⟨hnone, hbefore⟩
    · simp [hshown]
    · rw [hnone, Option.none_or]
      exact ih hbefore

/-- The chrome is hidden in Picture-in-Picture, and where the configuration has it so. -/
theorem hidden_undergo {i : Incident} (h : .chrome false ∈ (s.undergo i).commands) :
    (s.undergo i).session.state.inPip = true ∧
      ∀ config ∈ (s.undergo i).session.config, config.hideChromeInPip = true := by
  have hhidden : Entry.visibility? ⟨s, i⟩ = some false := by
    rw [← mem_visibilities, visibilities_undergo, Option.mem_toList] at h
    exact h
  cases i with
  | wait limit => cases hhidden
  | operation op a => cases op with
    | enterPip =>
      have hhides : s.hidesChrome = true := by
        by_contra hn
        simp [Entry.visibility?, hn] at hhidden
      refine ⟨rfl, fun config hc => ?_⟩
      have hconfig : s.config = some config := hc
      simpa [hidesChrome, hconfig] using hhides
    | _ => cases hhidden

theorem drop_chrome (s : Session) : visibilities s.drop.commands = [] := by
  refine visibilities_eq_nil fun c hc => ?_
  rw [drop, releaseEngine_eq] at hc
  exact Command.isChrome_of_forPlayback (toEngine_forPlayback _ .release c hc)

/-- In every run the chrome is shown and hidden exactly by the calls about Picture-in-Picture.
Outside Picture-in-Picture it has been shown last, if anything has become of it. It is hidden only
in Picture-in-Picture, where the configuration in force has it so or there is none yet. The end of
the session itself leaves it as it is. -/
theorem chrome_shown_outside (id : String) (run : List Incident) :
    let s := (fresh id).after run
    let h := (fresh id).history run
    let told := visibilities ((fresh id).log run)
    told = h.filterMap Entry.visibility? ∧
      (s.state.inPip = false → ∀ visible ∈ told.getLast?, visible = true) ∧
      (∀ e ∈ h, .chrome false ∈ e.outcome.commands → e.outcome.session.state.inPip = true ∧
        ∀ config ∈ e.outcome.session.config, config.hideChromeInPip = true) ∧
      visibilities s.drop.commands = [] := by
  intro s h told
  have htold : told = h.filterMap Entry.visibility? := visibilities_log _ run
  refine ⟨htold, fun hp => ?_, fun e _ hm => hidden_undergo hm, s.drop_chrome⟩
  rw [htold]
  exact shown_after id run hp

/-- A run in which the setting changes in Picture-in-Picture, which ends twice and begins twice, and
in which playback starts and is released there. -/
def pictures : List Incident :=
  [.operation .enterPip {}, .operation (.configure { hideChromeInPip := false }) {},
    .operation .exitPip {}, .operation .exitPip {}, .operation .enterPip {},
    .operation (.init [{ id := "a", duration := 90 }]) {}, .operation (.configure {}) {},
    .operation .enterPip {}, .operation .enterPip {}, .operation .release {},
    .operation .exitPip {}]

/-- The chrome is hidden twice over and shown at the end, where the engine is released. -/
theorem chrome_shown_outside_pictures :
    let s := (fresh "s").after pictures
    let told := visibilities ((fresh "s").log pictures)
    let again : Entry := ⟨(fresh "s").after (pictures.take 8), .operation .enterPip {}⟩
    told = [false, true, true, false, false, true] ∧ s.state.inPip = false ∧
      (∀ visible ∈ told.getLast?, visible = true) ∧ again ∈ (fresh "s").history pictures ∧
      .chrome false ∈ again.outcome.commands ∧ again.outcome.session.state.inPip = true ∧
      ∀ config ∈ again.outcome.session.config, config.hideChromeInPip = true := by
  intro s told again
  obtain ⟨htold, hshown, hhidden, -⟩ := chrome_shown_outside "s" pictures
  have hmem : again ∈ (fresh "s").history pictures := by decide +kernel
  have hhides : .chrome false ∈ again.outcome.commands := by decide +kernel
  exact ⟨htold.trans (by decide +kernel), by decide +kernel, hshown (by decide +kernel), hmem,
    hhides, hhidden again hmem hhides⟩

end Session
end Playback
