import Playback.Proofs.Engine.Casting
import Playback.Proofs.Session.Refusal

/-! Releases in Picture-in-Picture. The engine is on screen then, so it is kept until
Picture-in-Picture ends, and whether it is let go there depends on what came last: a release, or a
start of playback. Between such a release and the end the session does nothing. -/

namespace Playback

/-- What the entry says about the engine at the end of Picture-in-Picture, if it says anything: a
release of an engine lets it go there, and a start of playback keeps it. -/
def Entry.verdict? (e : Entry) : Option Bool :=
  match e.incident with
  | .operation .release _ => if e.before.engine.isSome then some true else none
  | _ => if e.opens then some false else none

namespace Session

/-- The operation needs an engine that may be used: it is a call for one, or a switch to another
backend that the configuration allows. -/
def needsEngine (s : Session) : Operation → Bool
  | .addVideo _ | .play | .pause | .seek _ | .setSticky _ => true
  | .switchBackend target => target ≠ s.state.backend && (target ≠ .cast || s.mayCast)
  | _ => false

/-- The session has been released, and its engine is to be released when Picture-in-Picture ends. -/
structure Waiting (s : Session) : Prop extends Over s where
  pending : s.releasePending = true
  inPip : s.state.inPip = true

variable {s : Session}

theorem verdict?_opens {i : Incident} (h : Entry.opens ⟨s, i⟩ = true) :
    Entry.verdict? ⟨s, i⟩ = some false := by
  unfold Entry.verdict?
  split
  · rename_i hi
    cases hi
    simp [Entry.opens, Operation.videos?] at h
  · rw [if_pos h]

theorem verdict?_eq_none {i : Incident} (h : ¬Entry.clears ⟨s, i⟩) :
    Entry.verdict? ⟨s, i⟩ = none := by
  unfold Entry.verdict?
  split
  · rename_i a hi
    cases hi
    exact absurd ⟨.release, a, rfl, .inl rfl⟩ h
  · refine if_neg fun ho => h ?_
    cases i with
    | wait limit => cases ho
    | operation op a => exact ⟨op, a, rfl, .inr (opens_iff.mp ho)⟩

/-- Up to the end of Picture-in-Picture, a release is pending as it was before, unless the incident
says otherwise. -/
theorem pending_undergo (s : Session) {i : Incident} (hi : ∀ a, i ≠ .operation .exitPip a) :
    (s.undergo i).session.releasePending =
      ((Entry.verdict? ⟨s, i⟩).map (· && s.state.inPip)).getD s.releasePending := by
  by_cases hc : Entry.clears ⟨s, i⟩
  · obtain ⟨op, a, rfl, rfl | ⟨config, playlist, ho⟩⟩ := hc
    · show s.release.session.releasePending = _
      rw [release_eq]
      cases he : s.engine <;> simp [issue, Entry.verdict?, he]
    · obtain ⟨phase, engine, created, hload⟩ := s.tornDown.load_session a config playlist
      rw [verdict?_opens (Entry.opens_of_opens ho)]
      show (s.step a op).session.releasePending = false
      rw [step_opens_session ho, hload]
      rfl
  · rw [verdict?_eq_none hc]
    show _ = s.releasePending
    cases s.bearing i with
    | spares hs => exact hs.pending
    | @opens op a config playlist ho => exact absurd (ho.clears a) hc
    | @release a => exact absurd ⟨.release, a, rfl, .inl rfl⟩ hc
    | @exitPip a => exact absurd rfl (hi a)
    | @switches target a e video hs =>
      obtain ⟨positions, hr⟩ := s.record_eq a.position
      show (s.switchBackend a target).session.releasePending = _
      cases hf : a.createFailure with
      | none =>
        rw [switchBackend_created hs hf, hr]
        rfl
      | some err => rw [switchBackend_failed hs hf, hr]

theorem inPip_kept (h : s.state.inPip = true) {i : Incident}
    (hi : ∀ a, i ≠ .operation .exitPip a) : (s.undergo i).session.state.inPip = true := by
  rw [inPip_undergo]
  unfold Incident.inPip
  split
  · rfl
  · exact absurd rfl (hi _)
  · exact h

/-- A release is pending in Picture-in-Picture only. -/
theorem inPip_of_pending (id : String) (run : List Incident) :
    ((fresh id).after run).releasePending = true → ((fresh id).after run).state.inPip = true := by
  refine after_induction (P := fun s => s.releasePending = true → s.state.inPip = true) run id
    (by simp [fresh]) fun s i ih hp => ?_
  by_cases hexit : ∃ a, i = .operation .exitPip a
  · obtain ⟨a, rfl⟩ := hexit
    change s.exitPip.session.releasePending = true at hp
    rw [exitPip_eq] at hp
    cases hpending : s.releasePending <;> simp [issue, hpending] at hp
  · have hi : ∀ a, i ≠ .operation .exitPip a := fun a h => hexit ⟨a, h⟩
    refine inPip_kept ?_ hi
    rw [pending_undergo s hi] at hp
    cases hv : Entry.verdict? ⟨s, i⟩ with
    | none =>
      rw [hv] at hp
      exact ih hp
    | some verdict =>
      rw [hv] at hp
      exact (Bool.and_eq_true_iff.mp hp).2

/-- In a stretch of Picture-in-Picture what was said last counts. -/
theorem pending_after (h : s.state.inPip = true) {stretch : List Incident}
    (hi : ∀ i ∈ stretch, ∀ a, i ≠ .operation .exitPip a) :
    (s.after stretch).state.inPip = true ∧
      (s.after stretch).releasePending =
        (((s.history stretch).filterMap Entry.verdict?).getLast?).getD s.releasePending := by
  induction stretch using List.reverseRecOn with
  | nil => exact ⟨h, rfl⟩
  | append_singleton stretch i ih =>
    obtain ⟨hpip, hpending⟩ := ih fun j hj => hi j (by simp [hj])
    have hlast := hi i (by simp)
    rw [after_concat, history_concat]
    refine ⟨inPip_kept hpip hlast, ?_⟩
    rw [pending_undergo _ hlast, hpending, hpip, getLast?_filterMap_concat]
    cases Entry.verdict? ⟨s.after stretch, i⟩ <;> simp

/-- In Picture-in-Picture neither a release nor a start of playback releases an engine. -/
theorem step_keeps (h : s.state.inPip = true) {op : Operation}
    (hop : op = .release ∨ op.starts = true) (a : Answers) (n : Nat) :
    .engine n .release ∉ (s.step a op).commands := by
  rcases hop with rfl | hop
  · show _ ∉ s.release.commands
    simp [release_eq, h, issue]
  · rcases starts_cases a s hop with ⟨e, he⟩ | ⟨config, playlist, ho⟩
    · simp [he, refuse]
    · rw [step_opens ho, h]
      intro hm
      rcases mem_load hm with hm | ⟨n, hm⟩ | hm | ⟨n, hm⟩ <;> cases hm

theorem waiting_release (h : s.state.inPip = true) (he : s.engine.isSome) :
    Waiting s.release.session ∧ s.release.commands = [] := by
  refine ⟨{ over_release s with pending := ?_, inPip := ?_ }, ?_⟩ <;>
    simp [release_eq, issue, tornDown, State.reset, h, he]

namespace Waiting

theorem undergo (h : Waiting s) (hs : Coherent s) {i : Incident}
    (hi : ∀ a, i ≠ .operation .exitPip a) (hn : Entry.opens ⟨s, i⟩ = false) :
    Waiting (s.undergo i).session ∧ ∀ c ∈ (s.undergo i).commands, c.isChrome = true := by
  obtain ⟨hover, htold⟩ := h.toOver.undergo hn
  have hpending : (s.undergo i).session.releasePending = true := by
    rw [pending_undergo s hi, h.inPip, h.pending]
    cases hv : Entry.verdict? ⟨s, i⟩ with
    | none => rfl
    | some verdict =>
      -- Only a start of playback would keep the engine.
      cases verdict with
      | true => rfl
      | false =>
        unfold Entry.verdict? at hv
        split at hv
        · split at hv <;> cases hv
        · simp [hn] at hv
  refine ⟨{ hover with pending := hpending, inPip := inPip_kept h.inPip hi }, ?_⟩
  -- The engine is still held, so its release has not been told.
  obtain ⟨e, he⟩ := Option.isSome_iff_exists.mp (hs.pending h.pending)
  obtain ⟨e', he'⟩ := Option.isSome_iff_exists.mp ((hs.undergo i).pending hpending)
  have hsilent : (s.undergo i).commands.filter (!·.isChrome) = [] := by
    have hlength := congrArg List.length htold
    simpa [toEngine, he, he'] using hlength
  intro c hc
  simpa using List.filter_eq_nil_iff.mp hsilent c hc

theorem after (h : Waiting s) (hs : Coherent s) {run : List Incident}
    (hi : ∀ i ∈ run, ∀ a, i ≠ .operation .exitPip a)
    (hn : ∀ e ∈ s.history run, e.opens = false) :
    Waiting (s.after run) ∧ ∀ c ∈ s.log run, c.isChrome = true := by
  induction run generalizing s with
  | nil => exact ⟨h, by simp⟩
  | cons i run ih =>
    obtain ⟨hfirst, hrest⟩ := List.forall_mem_cons.mp hn
    obtain ⟨hwaiting, htold⟩ := h.undergo hs (hi i (by simp)) hfirst
    obtain ⟨hwaiting', htold'⟩ :=
      ih hwaiting (hs.undergo i) (fun j hj => hi j (by simp [hj])) hrest
    refine ⟨hwaiting', fun c hc => ?_⟩
    rw [log_cons] at hc
    rcases List.mem_append.mp hc with hc | hc
    · exact htold c hc
    · exact htold' c hc

theorem signal (h : Waiting s) (a : Answers) (signal : Signal) :
    s.step a (.signal signal) = s.issue [] := signal_inactive h.active a signal

theorem refusal? (h : Waiting s) (hs : Coherent s) {op : Operation}
    (hop : s.needsEngine op = true) : s.refusal? op = some .notInitialized := by
  cases op with
  | addVideo | play | pause | seek | setSticky => simp [Session.refusal?, h.active]
  | switchBackend target =>
    obtain ⟨config, hc⟩ := Option.isSome_iff_exists.mp (hs.configured (hs.pending h.pending))
    simp only [needsEngine, mayCast, hc, Option.map_some, Option.getD_some, Bool.and_eq_true,
      decide_eq_true_eq, Bool.or_eq_true] at hop
    obtain ⟨hother, hallowed⟩ := hop
    have hcast : ¬(target = .cast ∧ config.castEnabled = false) := by
      rintro ⟨rfl, hno⟩
      simp [hno] at hallowed
    simp [Session.refusal?, switchRefusal?, hc, hcast, hother, h.active]
  | _ => cases hop

theorem refuses (h : Waiting s) (hs : Coherent s) (a : Answers) {op : Operation}
    (hop : s.needsEngine op = true) :
    (s.step a op).error = some .notInitialized ∧ (s.step a op).commands = [] := by
  rw [step_refused hs (h.refusal? hs hop)]
  exact ⟨rfl, rfl⟩

end Waiting

/-- What becomes of the engine in a stretch of Picture-in-Picture that begins in `s`. -/
structure PutsOff (s : Session) (stretch : List Incident) : Prop where
  /-- No release and no start of playback releases an engine. -/
  kept : ∀ e ∈ s.history stretch, ∀ op a, e.incident = .operation op a →
    op = .release ∨ op.starts = true → ∀ n, .engine n .release ∉ e.outcome.commands
  /-- When Picture-in-Picture ends, the engine is released if a release came last. -/
  exit : ∀ a, let t := s.after stretch
    if ((s.history stretch).filterMap Entry.verdict?).getLast? = some true then
      ∃ e, t.engine = some e ∧
        (t.step a .exitPip).commands = [.chrome true, .engine e.serial .release] ∧
        (t.step a .exitPip).session.engine = none
    else
      (t.step a .exitPip).commands = [.chrome true] ∧
        (t.step a .exitPip).session.engine = t.engine
  /-- From the release of an engine until playback is started, nothing but the chrome is told
  anything, signals change nothing, and what needs an engine is refused. -/
  waits : ∀ before a later rest, stretch = before ++ .operation .release a :: later ++ rest →
    (s.after before).engine.isSome →
    (∀ e ∈ (s.after before).release.session.history later, e.opens = false) →
    let t := s.after (before ++ .operation .release a :: later)
    (∀ c ∈ (s.after before).log (.operation .release a :: later), c.isChrome = true) ∧
      (∀ a signal, t.step a (.signal signal) = t.issue []) ∧
      ∀ a op, t.needsEngine op = true →
        (t.step a op).error = some .notInitialized ∧ (t.step a op).commands = []

theorem PutsOff.released {stretch : List Incident} (h : PutsOff s stretch)
    (hlast : ((s.history stretch).filterMap Entry.verdict?).getLast? = some true) (a : Answers) :
    ∃ e, (s.after stretch).engine = some e ∧
      ((s.after stretch).step a .exitPip).commands = [.chrome true, .engine e.serial .release] ∧
      ((s.after stretch).step a .exitPip).session.engine = none := by
  have hexit := h.exit a
  rwa [if_pos hlast] at hexit

section Stretch

variable {stretch : List Incident} (hs : Coherent s) (hpip : s.state.inPip = true)
  (hin : ∀ i ∈ stretch, ∀ a, i ≠ .operation .exitPip a)

include hpip hin in
theorem stretch_keeps {e : Entry} (he : e ∈ s.history stretch) {op : Operation} {a : Answers}
    (hi : e.incident = .operation op a) (hop : op = .release ∨ op.starts = true) (n : Nat) :
    .engine n .release ∉ e.outcome.commands := by
  obtain ⟨before, later, rfl, hbefore⟩ := mem_history he
  have hkept := (pending_after hpip fun j (hj : j ∈ before) => hin j (by simp [hj])).1
  rw [Entry.outcome, hi, hbefore]
  exact step_keeps hkept hop a n

include hs hpip hin in
theorem stretch_exit (hfirst : s.releasePending = false) (a : Answers) :
    let t := s.after stretch
    if ((s.history stretch).filterMap Entry.verdict?).getLast? = some true then
      ∃ e, t.engine = some e ∧
        (t.step a .exitPip).commands = [.chrome true, .engine e.serial .release] ∧
        (t.step a .exitPip).session.engine = none
    else
      (t.step a .exitPip).commands = [.chrome true] ∧
        (t.step a .exitPip).session.engine = t.engine := by
  intro t
  have hlast := (pending_after hpip hin).2
  show if _ then ∃ e, t.engine = some e ∧ t.exitPip.commands = _ ∧ t.exitPip.session.engine = none
    else t.exitPip.commands = _ ∧ t.exitPip.session.engine = t.engine
  rw [exitPip_eq]
  split
  · rename_i hverdict
    have hpending : t.releasePending = true := by rw [hlast, hverdict]; rfl
    obtain ⟨e, he⟩ := Option.isSome_iff_exists.mp ((hs.after stretch).pending hpending)
    exact ⟨e, he, by simp [hpending, issue, toEngine, t, he]⟩
  · rename_i hverdict
    have hpending : t.releasePending = false := by
      rw [hlast, hfirst]
      cases hl : ((s.history stretch).filterMap Entry.verdict?).getLast? with
      | none => rfl
      | some verdict =>
        rw [hl] at hverdict
        simpa using hverdict
    simp [hpending, issue]

include hs hpip hin in
theorem stretch_waits {before later rest : List Incident} {a : Answers}
    (hsplit : stretch = before ++ .operation .release a :: later ++ rest)
    (he : (s.after before).engine.isSome)
    (hn : ∀ e ∈ (s.after before).release.session.history later, e.opens = false) :
    Waiting (s.after (before ++ .operation .release a :: later)) ∧
      ∀ c ∈ (s.after before).log (.operation .release a :: later), c.isChrome = true := by
  subst hsplit
  have hkept := (pending_after hpip fun j (hj : j ∈ before) => hin j (by simp [hj])).1
  obtain ⟨hwaiting, htold⟩ := waiting_release hkept he
  obtain ⟨hthen, htold'⟩ :=
    hwaiting.after (hs.after before).release (fun j hj => hin j (by simp [hj])) hn
  rw [after_append]
  refine ⟨hthen, fun c hc => ?_⟩
  rw [log_cons] at hc
  rcases List.mem_append.mp hc with hc | hc
  · change c ∈ (s.after before).release.commands at hc
    rw [htold] at hc
    cases hc
  · exact htold' c hc

end Stretch

/-- In Picture-in-Picture a release is put off until Picture-in-Picture ends, unless playback is
started again before. -/
theorem release_put_off (id : String) (run : List Incident) (a : Answers)
    (stretch : List Incident) (hout : ((fresh id).after run).state.inPip = false)
    (hin : ∀ i ∈ stretch, ∀ a, i ≠ .operation .exitPip a) :
    PutsOff ((fresh id).after (run ++ [.operation .enterPip a])) stretch := by
  have hs := coherent_after id (run ++ [.operation .enterPip a])
  have hpip : ((fresh id).after (run ++ [.operation .enterPip a])).state.inPip = true := by
    rw [after_concat]
    rfl
  have hfirst : ((fresh id).after (run ++ [.operation .enterPip a])).releasePending = false := by
    rw [after_concat]
    show ((fresh id).after run).releasePending = false
    by_contra hp
    rw [inPip_of_pending id run (by simpa using hp)] at hout
    cases hout
  refine ⟨fun e he op a hi hop n => stretch_keeps hpip hin he hi hop n,
    fun a => stretch_exit hs hpip hin hfirst a, ?_⟩
  intro before a later rest hsplit he hn t
  obtain ⟨hwaiting, htold⟩ := stretch_waits hs hpip hin hsplit he hn
  exact ⟨htold, hwaiting.signal, fun a op hop => hwaiting.refuses (hs.after _) a hop⟩

/-- A session is released in Picture-in-Picture, plays something else on a receiver, and is released
again. Only the second release is made good when Picture-in-Picture ends. -/
theorem release_put_off_again :
    let run := deferral.take 2
    let released : List Incident :=
      [.operation .release {}, .operation (.signal (.engine (.playStarted 0))) {},
        .operation .pause { position := 5 }]
    let renewed : List Incident :=
      [.operation (.init [{ id := "b" }]) {}, .operation .enterPip {},
        .operation (.switchBackend .cast) {}, .operation .release {}]
    let s := (fresh "s").after (run ++ [.operation .enterPip {}])
    ((s.after released).step {} (.switchBackend .cast)).error = some .notInitialized ∧
      (∀ c ∈ s.log released, c.isChrome = true) ∧
      ((s.after (released ++ renewed)).step {} .exitPip).commands =
        [.chrome true, .engine 2 .release] := by
  intro run released renewed s
  have hin : ∀ i ∈ released ++ renewed, ∀ a, i ≠ .operation .exitPip a := by
    simp [released, renewed]
  have h := release_put_off "s" run {} (released ++ renewed) (by decide +kernel) hin
  obtain ⟨hchrome, -, hrefused⟩ :=
    h.waits [] {} released.tail renewed rfl (by decide +kernel) (by decide +kernel)
  obtain ⟨e, he, hcommands, -⟩ := h.released (by decide +kernel) {}
  have hheld : (s.after (released ++ renewed)).engine = some ⟨2, .cast⟩ := by decide +kernel
  rw [hheld] at he
  cases he
  exact ⟨(hrefused {} (.switchBackend .cast) (by decide +kernel)).1, hchrome, hcommands⟩

end Session
end Playback
