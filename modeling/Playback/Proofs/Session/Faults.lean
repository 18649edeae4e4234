import Playback.Proofs.Session.Quiescence
import Playback.Proofs.Session.Refusal
import Playback.Proofs.Tracking.Emission

/-! What becomes of the faults that engines report. One that can be mended is mended, and reported
as an event; any other is shown and reported to the client. Nothing else is ever shown or reported
to the client, and no fault changes anything about the session. -/

namespace Playback

/-- The failure that the client is told about because of the fault, if it cannot be mended. -/
def Fault.surfaced? : Fault → Option Failure
  | .behindLiveWindow => none
  | .source message => some ⟨.sourceUnavailable, message⟩
  | .renderer message | .unexpected message => some ⟨.engineFatal, message⟩

/-- The fault that comes in, if one does. -/
def Incident.fault? : Incident → Option Fault
  | .operation (.signal (.engine (.fault f))) _ => some f
  | _ => none

/-- The failure that the client is told about because of the entry. -/
def Entry.surfaced? (e : Entry) : Option Failure :=
  if e.before.isActive then e.incident.fault?.bind Fault.surfaced? else none

/-- What the client is told of failures, in order. -/
def reported (log : List Command) : List Failure :=
  log.filterMap fun
    | .report f => some f
    | _ => none

/-- What is shown over the picture, in order. -/
def overlays (log : List Command) : List String :=
  log.filterMap fun
    | .overlay message => some message
    | _ => none

/-- The command tells the client about a failure or shows it. -/
def Command.isNotice : Command → Bool
  | .overlay _ | .report _ => true
  | _ => false

theorem reported_eq_nil {cs : List Command} (h : ∀ c ∈ cs, c.isNotice = false) :
    reported cs = [] := by
  refine List.filterMap_eq_nil_iff.mpr fun c hc => ?_
  cases c with
  | report f => cases h _ hc
  | _ => rfl

theorem overlays_eq_nil {cs : List Command} (h : ∀ c ∈ cs, c.isNotice = false) :
    overlays cs = [] := by
  refine List.filterMap_eq_nil_iff.mpr fun c hc => ?_
  cases c with
  | overlay message => cases h _ hc
  | _ => rfl

theorem Command.isNotice_of_isOrder {c : Command} (h : c.isOrder = true) : c.isNotice = false := by
  cases c with
  | event | fetch | overlay | report => cases h
  | _ => rfl

theorem Incident.fault?_eq_some {i : Incident} {f : Fault} :
    i.fault? = some f ↔ ∃ a, i = .operation (.signal (.engine (.fault f))) a := by
  unfold fault?
  split <;> simp_all

/-- Only a fault means that something has failed. -/
theorem Circumstances.classify_failure (c : Circumstances) {signal : Signal}
    (h : ∀ f, signal ≠ .engine (.fault f)) : (c.classify signal).delta.failure = none := by
  cases signal with
  | engine signal => cases signal with
    | fault f => exact absurd rfl (h f)
    | playStarted position =>
      simp only [classify, classifyEngine]
      split <;> rfl
    | percentWatched percent =>
      simp only [classify, classifyEngine]
      split <;> rfl
    | _ => rfl
  | ads signal => cases signal with
    | paused ad | resumed ad =>
      simp only [classify, classifyAds]
      split <;> rfl
    | _ => rfl

namespace Session

variable {s : Session} {a : Answers}

/-- What an active session tells because of the fault `f`, where it plays `video` with `e`. -/
def faultTold (video : Video) (e : Engine) (f : Fault) : List Command :=
  match f.surfaced? with
  | some failure => [.overlay failure.message, .report failure]
  | none =>
    [.event ⟨video.id, .streamRecovered, .info f.classify.message⟩,
      .engine e.serial .seekToDefault, .engine e.serial .prepare]

theorem fault_eq {video : Video} {e : Engine} (hactive : s.isActive = true)
    (hv : s.current? = some video) (he : s.engine = some e) (a : Answers) (f : Fault) :
    s.step a (.signal (.engine (.fault f))) = s.issue (faultTold video e f) := by
  have hchange : ∀ d : Delta, d = { failure := some f.classify } → s.change a d = s := by
    rintro d rfl
    rfl
  simp only [step, handleSignal, hactive, hv, Circumstances.classify, Circumstances.classifyEngine,
    issue, Outcome.andThen_ok, apply_eq, hchange _ rfl, Option.elim_some]
  cases f <;> simp [faultTold, Fault.surfaced?, Fault.classify, FailureKind.isRecoverable,
    answerFailure, toEngine, he]

/-- A signal that is no fault is not told to the client as a failure. -/
theorem handleSignal_notices {signal : Signal} (h : ∀ f, signal ≠ .engine (.fault f)) :
    ∀ c ∈ (s.handleSignal a signal).commands, c.isNotice = false := by
  intro c hc
  rcases handleSignal_told hc with horder | ⟨e, rfl⟩ | ⟨video, f, hf, -⟩
  · exact Command.isNotice_of_isOrder (Command.isOrder_of_forPlayback horder)
  · rfl
  · rw [Circumstances.classify_failure _ h] at hf
    cases hf

theorem undergo_notices {i : Incident} (h : i.fault? = none) :
    ∀ c ∈ (s.undergo i).commands, c.isNotice = false := by
  rcases s.orders_or_comes_in i with ho | ⟨signal, a, rfl⟩ | ⟨handoff, a, rfl⟩
  · exact fun c hc => Command.isNotice_of_isOrder (ho c hc)
  · refine handleSignal_notices fun f hf => ?_
    rw [hf] at h
    cases h
  · intro c hc
    rcases mem_handleHandoff hc with ⟨_, _, -, -, -, rfl⟩ | ⟨_, _, _, -, -, -, -, rfl⟩ <;> rfl

/-- Where the fault `f` of the entry goes. -/
structure Routes (entry : Entry) (f : Fault) : Prop where
  /-- Nothing about the session changes, whether it is active or not. -/
  kept : entry.outcome.session = entry.before
  error : entry.outcome.error = none
  told : entry.before.isActive = true → ∃ video e, entry.before.current? = some video ∧
    entry.before.engine = some e ∧ entry.outcome.commands = faultTold video e f
  ignored : entry.before.isActive = false → entry.outcome.commands = []

theorem routes (h : Coherent s) (a : Answers) (f : Fault) :
    Routes ⟨s, .operation (.signal (.engine (.fault f))) a⟩ f := by
  cases hactive : s.isActive with
  | false =>
    have hstep := signal_inactive hactive a (.engine (.fault f))
    refine ⟨congrArg Outcome.session hstep, congrArg Outcome.error hstep, fun ht => ?_,
      fun _ => congrArg Outcome.commands hstep⟩
    rw [hactive] at ht
    cases ht
  | true =>
    obtain ⟨e, video, he, hv⟩ := h.plays hactive
    have hstep := fault_eq hactive hv he a f
    refine ⟨congrArg Outcome.session hstep, congrArg Outcome.error hstep,
      fun _ => ⟨video, e, hv, he, congrArg Outcome.commands hstep⟩, fun hf => ?_⟩
    rw [hactive] at hf
    cases hf

/-- One incident tells the client about the failure that it surfaces, and about no other. -/
theorem surfaced_undergo (h : Coherent s) (i : Incident) :
    reported (s.undergo i).commands = (Entry.surfaced? ⟨s, i⟩).toList ∧
      overlays (s.undergo i).commands = (Entry.surfaced? ⟨s, i⟩).toList.map (·.message) := by
  cases hf : i.fault? with
  | none =>
    have hn := undergo_notices (s := s) hf
    simp [reported_eq_nil hn, overlays_eq_nil hn, Entry.surfaced?, hf]
  | some f =>
    obtain ⟨a, rfl⟩ := Incident.fault?_eq_some.mp hf
    have hr := routes h a f
    cases hactive : s.isActive with
    | false =>
      have hcommands : (s.undergo (.operation (.signal (.engine (.fault f))) a)).commands = [] :=
        hr.ignored hactive
      simp [hcommands, Entry.surfaced?, hactive, reported, overlays]
    | true =>
      obtain ⟨video, e, -, -, hcommands⟩ := hr.told hactive
      change (s.undergo _).commands = _ at hcommands
      rw [hcommands]
      cases f <;> simp [faultTold, Entry.surfaced?, hactive, Incident.fault?, Fault.surfaced?,
        reported, overlays]

theorem surfaced_log (h : Coherent s) (run : List Incident) :
    reported (s.log run) = (s.history run).filterMap Entry.surfaced? ∧
      overlays (s.log run) = ((s.history run).filterMap Entry.surfaced?).map (·.message) := by
  constructor
  · exact filterMap_log (fun _ i hs => hs.undergo i) (fun _ i hs => (surfaced_undergo hs i).1) h run
  · rw [List.map_filterMap]
    refine filterMap_log (fun _ i hs => hs.undergo i) (fun s i hs => ?_) h run
    refine (surfaced_undergo hs i).2.trans ?_
    cases Entry.surfaced? ⟨s, i⟩ <;> rfl

/-- In every run the client is told about exactly those failures that cannot be mended and that come
in while the session is active, each once, in order, and each is shown once. A fault that can be
mended is reported as an event and mended on the engine that is held. No fault changes the session,
and none means anything to a session that is not active. -/
theorem faults_routed (id : String) (run : List Incident) :
    let h := (fresh id).history run
    reported ((fresh id).log run) = h.filterMap Entry.surfaced? ∧
      overlays ((fresh id).log run) = (h.filterMap Entry.surfaced?).map (·.message) ∧
      ∀ e ∈ h, ∀ f, e.incident.fault? = some f → Routes e f := by
  intro h
  obtain ⟨hreported, hoverlays⟩ := surfaced_log (Coherent.fresh id) run
  refine ⟨hreported, hoverlays, fun e he f hf => ?_⟩
  obtain ⟨before, later, -, hbefore⟩ := mem_history he
  obtain ⟨s, i⟩ := e
  obtain ⟨a, rfl⟩ := Incident.fault?_eq_some.mp hf
  cases hbefore
  exact routes (coherent_after id before) a f

/-- A run of a live stream on its second engine, in which the engine falls behind, fails twice, and
reports a fault again after its release. -/
def faulty : List Incident :=
  relocation none ++
    [.operation (.signal (.engine (.fault .behindLiveWindow))) {},
      .operation (.signal (.engine (.fault (.source "gone")))) {},
      .operation (.signal (.engine (.fault (.renderer "black")))) {}, .operation .release {},
      .operation (.signal (.engine (.fault (.unexpected "late")))) {}]

/-- The client is told about the two failures, and the stream is mended once. -/
theorem faults_routed_stream :
    let behind : Entry := ⟨(fresh "s").after (relocation none),
      .operation (.signal (.engine (.fault .behindLiveWindow))) {}⟩
    reported ((fresh "s").log faulty) = [⟨.sourceUnavailable, "gone"⟩, ⟨.engineFatal, "black"⟩] ∧
      overlays ((fresh "s").log faulty) = ["gone", "black"] ∧
      behind ∈ (fresh "s").history faulty ∧
      behind.outcome.commands =
        [.event ⟨"a", .streamRecovered, .info "playback fell behind the live window"⟩,
          .engine 2 .seekToDefault, .engine 2 .prepare] ∧
      behind.outcome.session = behind.before := by
  intro behind
  obtain ⟨hreported, hoverlays, hroutes⟩ := faults_routed "s" faulty
  have hmem : behind ∈ (fresh "s").history faulty := by decide +kernel
  have hr := hroutes behind hmem .behindLiveWindow rfl
  obtain ⟨video, e, hv, he, hcommands⟩ := hr.told (by decide +kernel)
  have hvideo : behind.before.current? = some { id := "a", isLive := true, wantsAds := true } := by
    decide +kernel
  have hengine : behind.before.engine = some ⟨2, .cast⟩ := by decide +kernel
  obtain rfl := Option.some.inj (hv.symm.trans hvideo)
  obtain rfl := Option.some.inj (he.symm.trans hengine)
  exact ⟨hreported.trans (by decide +kernel), hoverlays.trans (by decide +kernel), hmem,
    hcommands.trans (by decide +kernel), hr.kept⟩

end Session
end Playback
