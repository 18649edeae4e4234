import Playback.Proofs.Tracking.Emission

/-! Which video avails are reported for. A fetch may take any time, and the timer that it was
started for may be gone when it ends; what it brings is reported only for the video that it was
started for, and only once for each generation of the timer. -/

namespace Playback

def Command.bringsAvails : Command → Bool
  | .event e => e.kind = .availsReceived
  | _ => false

/-- The events of avails of a history while the timer had the generation `g`. -/
def received (g : Nat) (h : List Entry) : List Command :=
  (h.filter fun e => e.before.poller.generation = g).flatMap fun e =>
    e.outcome.commands.filter Command.bringsAvails

/-- The avails that come in are those of fetches that have been started: the entry `j` brings what
the fetch of the entry `origin j` was answered, and nothing if that failed. -/
def Genuine (h : List Entry) (origin : Nat → Nat) (answer : Nat → Option (List Avail)) : Prop :=
  ∀ j s generation avails a,
    h[j]? = some ⟨s, .operation (.handoff (.fetched generation avails)) a⟩ →
      origin j < j ∧ avails = (answer (origin j)).getD [] ∧
        ∃ f url, h[origin j]? = some f ∧ .fetch url generation ∈ f.outcome.commands

/-- The event of avails in the entry `e`, the `j`-th one, is for the video that the entry `f`, the
`i`-th one, has fetched the avails for. -/
structure Attributed (h : List Entry) (i j : Nat) (f e : Entry) (answer : Option (List Avail))
    (event : Event) : Prop where
  earlier : i < j
  fetched : ∃ url, e.before.tracking? = some url ∧
    .fetch url e.before.poller.generation ∈ f.outcome.commands
  event : ∃ video avails position, e.before.current? = some video ∧
    f.before.current? = some video ∧ answer = some avails ∧ avails ≠ [] ∧
    event = ⟨video.id, .availsReceived, .avails avails position⟩
  /-- The timer, the ad session and the current video are those of the fetch. -/
  continues : Session.Continues f.before e.before
  /-- Nothing was released, started or configured in between. -/
  undisturbed : ∀ k x, i ≤ k → k < j → h[k]? = some x → ¬x.renews

theorem Circumstances.classify_kind {c : Circumstances} {signal : Signal} {e : Event}
    (h : (c.classify signal).event = some e) : e.kind ≠ .availsReceived := by
  cases signal with
  | engine signal => cases signal with
    | playStarted position =>
      simp only [classify, classifyEngine] at h
      split at h
      · cases h
      · cases h
        simp [playbackEvent]
    | percentWatched percent =>
      simp only [classify, classifyEngine] at h
      split at h <;> cases h
      simp
    | fault f =>
      simp only [classify, classifyEngine] at h
      split at h <;> cases h
      simp
    | contentEnded => cases h
    | _ => cases h; simp [playbackEvent]
  | ads signal => cases signal with
    | paused ad | resumed ad =>
      simp only [classify, classifyAds] at h
      split at h <;> cases h
      simp
    | _ => cases h; simp

namespace Session

variable {s : Session} {i : Incident}

theorem fetch_of_mem {url : Url} {g : Nat} (h : .fetch url g ∈ (s.undergo i).commands) :
    s.poller.accepts g = true ∧ s.tracking? = some url := by
  rcases tracking_of_mem h rfl with ⟨signal, a, rfl⟩ | ⟨handoff, a, rfl⟩
  · obtain ⟨video, e, -, -, he, -⟩ := mem_handleSignal h rfl
    cases he
  · rcases mem_handleHandoff h with ⟨g', url', -, haccepts, hurl, hc⟩ | ⟨_, _, _, -, -, -, -, hc⟩
    · cases hc
      exact ⟨haccepts, hurl⟩
    · cases hc

theorem event_of_mem {event : Event} (h : .event event ∈ (s.undergo i).commands)
    (hk : event.kind = .availsReceived) :
    ∃ generation avails video a position,
      i = .operation (.handoff (.fetched generation avails)) a ∧
      s.poller.accepts generation = true ∧ avails ≠ [] ∧ s.current? = some video ∧
      event = ⟨video.id, .availsReceived, .avails avails position⟩ := by
  rcases tracking_of_mem h rfl with ⟨signal, a, rfl⟩ | ⟨handoff, a, rfl⟩
  · obtain ⟨video, e, -, -, he, hkind⟩ := mem_handleSignal h rfl
    cases he
    rcases hkind with hkind | ⟨-, rfl | ⟨v, -, rfl⟩⟩
    · exact absurd hk (Circumstances.classify_kind hkind)
    · cases hk
    · cases hk
  · rcases mem_handleHandoff h with ⟨g, url, -, -, -, hc⟩ | ⟨g, avails, video, rfl, ha, hn, hv, hc⟩
    · cases hc
    · cases hc
      exact ⟨g, avails, video, a, _, rfl, ha, hn, hv, rfl⟩

/-- Avails that are accepted are reported once, and a new generation begins. -/
theorem handleHandoff_accepted {g : Nat} {avails : List Avail} {video : Video} (a : Answers)
    (ha : s.poller.accepts g = true) (hn : avails ≠ []) (hv : s.current? = some video) :
    s.handleHandoff a (.fetched g avails) =
      issue (s.startPolling a)
        [.event ⟨video.id, .availsReceived,
          .avails avails (if s.engine.isSome then a.position else noPosition)⟩] := by
  cases avails with
  | nil => exact absurd rfl hn
  | cons avail rest => simp only [handleHandoff, ha, hv]

/-- An incident that avails are reported in brings one event of them and begins a generation. -/
theorem brings_or_not (s : Session) (i : Incident) :
    (s.undergo i).commands.filter Command.bringsAvails = [] ∨
      ((s.undergo i).commands.filter Command.bringsAvails).length = 1 ∧
        s.poller.generation < (s.undergo i).session.poller.generation := by
  by_cases h : (s.undergo i).commands.filter Command.bringsAvails = []
  · exact .inl h
  obtain ⟨c, hc⟩ := List.exists_mem_of_ne_nil _ h
  obtain ⟨hmem, hbrings⟩ := List.mem_filter.mp hc
  cases c with
  | event event =>
    obtain ⟨g, avails, video, a, position, rfl, ha, hn, hv, -⟩ :=
      event_of_mem hmem (by simpa [Command.bringsAvails] using hbrings)
    have hstep : s.undergo (.operation (.handoff (.fetched g avails)) a) = _ :=
      handleHandoff_accepted a ha hn hv
    rw [hstep]
    exact .inr ⟨rfl, s.poller.generation_startStandard a.now⟩
  | _ => cases hbrings

theorem received_concat (g : Nat) (h : List Entry) (e : Entry) :
    received g (h ++ [e]) =
      received g h ++
        if e.before.poller.generation = g then e.outcome.commands.filter Command.bringsAvails
        else [] := by
  by_cases he : e.before.poller.generation = g <;> simp [received, he]

/-- Nothing has been reported for the generation that the timer has now, or for later ones, and no
more than once for any other. -/
theorem received_after (id : String) (run : List Incident) :
    let h := (fresh id).history run
    (∀ g, ((fresh id).after run).poller.generation ≤ g → received g h = []) ∧
      ∀ g, (received g h).length ≤ 1 := by
  induction run using List.reverseRecOn with
  | nil => exact ⟨fun _ _ => rfl, fun _ => Nat.zero_le 1⟩
  | append_singleton run i ih =>
    obtain ⟨hnone, hone⟩ := ih
    have hle := ((fresh id).after run).follows_undergo i |>.generation_le
    have hnew := ((fresh id).after run).brings_or_not i
    simp only [after_concat, history_concat, received_concat, Entry.outcome]
    -- An event raises the generation, so the one that it belongs to had brought nothing before.
    constructor
    · intro g hg
      rw [hnone g (by omega), List.nil_append]
      split
      · rename_i he
        rcases hnew with hnew | ⟨-, hlt⟩
        · exact hnew
        · omega
      · rfl
    · intro g
      split
      · rename_i he
        rw [hnone g (by omega), List.nil_append]
        rcases hnew with hnew | ⟨hnew, -⟩
        · simp [hnew]
        · omega
      · rw [List.append_nil]
        exact hone g

theorem history_entry {run : List Incident} {k : Nat} {e : Entry}
    (h : (s.history run)[k]? = some e) :
    e.before = s.after (run.take k) ∧
      (e.before.undergo e.incident).session = s.after (run.take (k + 1)) := by
  rw [history_getElem?, Option.map_eq_some_iff] at h
  obtain ⟨i, hi, rfl⟩ := h
  refine ⟨rfl, ?_⟩
  rw [List.take_add_one, hi, Option.toList_some, after_concat]

theorem follows_take (s : Session) (run : List Incident) {i j : Nat} (h : i ≤ j) :
    Follows (s.after (run.take i)) (s.after (run.take j)) := by
  have hrun : run.take j = run.take i ++ (run.take j).drop i := by
    have htake := List.take_append_drop i (run.take j)
    rw [List.take_take, Nat.min_eq_left h] at htake
    exact htake.symm
  rw [hrun, after_append]
  exact follows_after _ _

/-- Between two entries with one generation the same timer goes on, and nothing is released, started
or configured. -/
theorem continues_between {id : String} {run : List Incident} {i j : Nat} {f e : Entry}
    (hf : ((fresh id).history run)[i]? = some f) (he : ((fresh id).history run)[j]? = some e)
    (hij : i ≤ j) (hgen : f.before.poller.generation = e.before.poller.generation)
    (ht : f.before.poller.timer.isSome) :
    Continues f.before e.before ∧
      ∀ k x, i ≤ k → k < j → ((fresh id).history run)[k]? = some x → ¬x.renews := by
  have hbf := (history_entry hf).1
  have hbe := (history_entry he).1
  constructor
  · have h := follows_take (fresh id) run hij
    rw [← hbf, ← hbe] at h
    rcases h.turn with hlt | hc
    · omega
    · exact hc
  · intro k x hik hkj hx hr
    obtain ⟨hbx, hax⟩ := history_entry hx
    have hfx := follows_take (fresh id) run hik
    have hxe := follows_take (fresh id) run (Nat.succ_le_of_lt hkj)
    rw [← hbf, ← hbx] at hfx
    rw [← hax, ← hbe] at hxe
    have hle := hfx.generation_le
    have hle' := hxe.generation_le
    have hunended : x.before.poller.Unended := hbx ▸ unended_after id _
    have hkeeps := x.before.follows_undergo x.incident |>.generation_le
    -- A renewal would have raised the generation, which has not changed from `f` to `e`.
    rcases hfx.turn with hlt | hc
    · omega
    · have hgrows := renews_generation hr (hc.timer ▸ ht) hunended
      omega

/-- Avails are reported only for the video that they were fetched for, from where the avails of the
present ad session are asked for, and once for each generation of the timer. -/
theorem avails_attributed (id : String) (run : List Incident) (origin : Nat → Nat)
    (answer : Nat → Option (List Avail)) (hg : Genuine ((fresh id).history run) origin answer) :
    let h := (fresh id).history run
    (∀ j e event, h[j]? = some e → .event event ∈ e.outcome.commands →
        event.kind = .availsReceived →
        ∃ f, h[origin j]? = some f ∧
          Attributed h (origin j) j f e (answer (origin j)) event) ∧
      ∀ g, (received g h).length ≤ 1 := by
  intro h
  refine ⟨fun j e event he hm hk => ?_, (received_after id run).2⟩
  obtain ⟨g, avails, video, a, position, hi, ha, hn, hv, hevent⟩ := event_of_mem hm hk
  obtain ⟨hlt, havails, f, url, hf, hfetch⟩ := hg j e.before g avails a (by rw [he, ← hi])
  obtain ⟨hfa, hurl⟩ := fetch_of_mem hfetch
  obtain ⟨hft, hfg⟩ := Poller.accepts_iff.mp hfa
  obtain ⟨-, heg⟩ := Poller.accepts_iff.mp ha
  obtain ⟨hc, hquiet⟩ := continues_between hf he (Nat.le_of_lt hlt) (hfg.symm.trans heg) hft
  refine ⟨f, hf, hlt, ⟨url, ?_, heg ▸ hfetch⟩,
    ⟨video, avails, position, hv, ?_, ?_, hn, hevent⟩, hc, hquiet⟩
  · rw [tracking?, hc.adSession]
    exact hurl
  · rw [← hc.current]
    exact hv
  · cases hanswer : answer (origin j) with
    | none => exact absurd (by rw [havails, hanswer]; rfl) hn
    | some brought => rw [havails, hanswer, Option.getD_some]

/-- A run with two fetches, of which the later one ends first. -/
def delivery : List Incident :=
  [.operation (.configure {}) {},
    .operation (.init [{ id := "a", isLive := true, wantsAds := true }])
      { manifest := some { tracking := some ⟨"avails"⟩, id := "m" } },
    .operation (.signal (.engine (.playStarted 0))) {},
    .operation (.handoff (.tick 3)) {}, .operation (.handoff (.tick 3)) {},
    .operation (.handoff (.fetched 3 [⟨"second", 0, 0, []⟩])) {},
    .operation (.handoff (.fetched 3 [⟨"first", 0, 0, []⟩])) {}]

/-- The avails that come in first are reported, and those of the other fetch are not. -/
theorem avails_attributed_delivery :
    let h := (fresh "s").history delivery
    let origin := fun j => if j = 5 then 4 else 3
    let answer := fun i =>
      if i = 4 then some [⟨"second", 0, 0, []⟩] else some [⟨"first", 0, 0, []⟩]
    Genuine h origin answer ∧
      (∃ e event f, h[5]? = some e ∧ .event event ∈ e.outcome.commands ∧
        Attributed h 4 5 f e (answer 4) event) ∧
      (received 3 h).length = 1 := by
  intro h origin answer
  have hfetch : ∀ i ∈ [3, 4], ∃ f, h[i]? = some f ∧ .fetch ⟨"avails"⟩ 3 ∈ f.outcome.commands := by
    intro i hi
    simp only [List.mem_cons, List.not_mem_nil, or_false] at hi
    rcases hi with rfl | rfl
    · exact ⟨⟨(fresh "s").after (delivery.take 3), .operation (.handoff (.tick 3)) {}⟩,
        history_getElem? _ _ _, by decide +kernel⟩
    · exact ⟨⟨(fresh "s").after (delivery.take 4), .operation (.handoff (.tick 3)) {}⟩,
        history_getElem? _ _ _, by decide +kernel⟩
  have hg : Genuine h origin answer := by
    intro j s generation avails a hj
    rw [history_getElem?] at hj
    match j with
    | 0 | 1 | 2 | 3 | 4 => simp [delivery] at hj
    | 5 =>
      obtain ⟨f, hf, hm⟩ := hfetch 4 (by simp)
      cases hj
      exact ⟨by decide, rfl, f, _, hf, hm⟩
    | 6 =>
      obtain ⟨f, hf, hm⟩ := hfetch 3 (by simp)
      cases hj
      exact ⟨by decide, rfl, f, _, hf, hm⟩
    | n + 7 => simp [delivery] at hj
  have he : h[5]? = some
      ⟨(fresh "s").after (delivery.take 5),
        .operation (.handoff (.fetched 3 [⟨"second", 0, 0, []⟩])) {}⟩ := history_getElem? _ _ _
  have hm : .event ⟨"a", .availsReceived, .avails [⟨"second", 0, 0, []⟩] 0⟩ ∈
      (((fresh "s").after (delivery.take 5)).undergo
        (.operation (.handoff (.fetched 3 [⟨"second", 0, 0, []⟩])) {})).commands := by
    decide +kernel
  obtain ⟨hattributed, hone⟩ := avails_attributed "s" delivery origin answer hg
  obtain ⟨f, -, hf⟩ := hattributed 5 _ _ he hm rfl
  refine ⟨hg, ⟨_, _, f, he, hm, hf⟩, Nat.le_antisymm (hone 3) ?_⟩
  decide +kernel

end Session
end Playback
