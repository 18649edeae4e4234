import Playback.Proofs.Polling.Attribution
import Playback.Proofs.Polling.Schedule
import Playback.Rehearsal.Task

/-! What a task keeps in order. After each call and each tick it takes the messages of the
background until none is left, so whenever its clients can act, nothing waits and the next tick is
still to come. -/

namespace Playback

/-- The fetch that the command starts. -/
def Command.fetch? : Command → Option (Url × Nat)
  | .fetch url generation => some (url, generation)
  | _ => none

def Handoff.isFetched (m : Handoff) : Bool := m matches .fetched ..

theorem Session.handleHandoff_fetch? {m : Handoff} (h : m.isFetched = true) (s : Session)
    (a : Answers) :
    (s.handleHandoff a m).commands.filterMap Command.fetch? = [] := by
  cases m with
  | tick => cases h
  | fetched g avails =>
    unfold Session.handleHandoff
    dsimp only
    split <;> rfl

namespace Rehearsal

variable {σ : Type} {w : World σ} {r : Rehearsal σ}

/-- The messages of the background are all with the session. -/
structure Idle (r : Rehearsal σ) : Prop where
  waiting : r.waiting = []
  fetches : r.fetches = []

theorem foldl_carry (commands : List Command) (r : Rehearsal σ) :
    let r' := commands.foldl (carry w) r
    r'.session = r.session ∧ r'.waiting = r.waiting ∧ r'.now = r.now ∧
      r'.fetches = r.fetches ++ commands.filterMap Command.fetch? := by
  induction commands generalizing r with
  | nil => simp
  | cons c rest ih =>
    obtain ⟨hsession, hwaiting, hnow, hfetches⟩ := ih (r.carry w c)
    rw [List.foldl_cons]
    cases c with
    | fetch url g =>
      refine ⟨hsession, hwaiting, hnow, hfetches.trans ?_⟩
      simp [carry, Command.fetch?]
    | _ => exact ⟨hsession, hwaiting, hnow, hfetches⟩

theorem follow_kept (r : Rehearsal σ) (o : Outcome) :
    (r.follow w o).session = o.session ∧ (r.follow w o).waiting = r.waiting ∧
      (r.follow w o).now = r.now ∧
      (r.follow w o).fetches = r.fetches ++ o.commands.filterMap Command.fetch? :=
  foldl_carry o.commands { r with session := o.session }

/-- The fetches that are finished bring nothing but their own messages. -/
theorem foldl_deliver (fetches : List (Url × Nat)) (r : Rehearsal σ) :
    let r' := fetches.foldl (deliver w) r
    r'.session = r.session ∧ r'.now = r.now ∧ r'.fetches = r.fetches ∧
      ∃ brought, r'.waiting = r.waiting ++ brought ∧ ∀ m ∈ brought, m.isFetched = true := by
  induction fetches generalizing r with
  | nil => exact ⟨rfl, rfl, rfl, [], by simp, nofun⟩
  | cons f rest ih =>
    obtain ⟨hsession, hnow, hfetches, brought, hwaiting, hall⟩ := ih (r.deliver w f)
    refine ⟨hsession, hnow, hfetches, .fetched f.2 (w.avails r.world) :: brought, ?_, ?_⟩
    · rw [List.foldl_cons, hwaiting]
      simp [deliver]
    · rintro m (_ | ⟨_, hm⟩)
      · rfl
      · exact hall m hm

theorem settle_kept (r : Rehearsal σ) :
    (r.settle w).session = r.session ∧ (r.settle w).now = r.now ∧ (r.settle w).fetches = [] ∧
      ∃ brought, (r.settle w).waiting = r.waiting ++ brought ∧ ∀ m ∈ brought, m.isFetched = true :=
  foldl_deliver r.fetches { r with fetches := [] }

theorem settle_of_nil (h : r.fetches = []) : r.settle w = r := by
  rw [settle, h, List.foldl_nil, ← h]

theorem handle_kept (messages : List Handoff) (r : Rehearsal σ) :
    (r.handle w messages).waiting = r.waiting ∧ (r.handle w messages).now = r.now ∧
      ((∀ m ∈ messages, m.isFetched = true) → (r.handle w messages).fetches = r.fetches) := by
  induction messages generalizing r with
  | nil => exact ⟨rfl, rfl, fun _ => rfl⟩
  | cons m rest ih =>
    obtain ⟨hwaiting, hnow, hfetches⟩ := ih (r.perform w (.handoff m)).1
    obtain ⟨-, hwaiting', hnow', hfetches'⟩ :=
      r.follow_kept (w := w) (r.session.step (w.answers r.now r.world) (.handoff m))
    refine ⟨hwaiting.trans hwaiting', hnow.trans hnow', fun hall => ?_⟩
    obtain ⟨hm, hrest⟩ := List.forall_mem_cons.mp hall
    refine (hfetches hrest).trans (hfetches'.trans ?_)
    rw [Session.step, Session.handleHandoff_fetch? hm, List.append_nil]

theorem drain_kept (r : Rehearsal σ) :
    (r.drain w).now = r.now ∧ (r.drain w).fetches = [] ∧
      (∀ m ∈ (r.drain w).waiting, m.isFetched = true) ∧
      (r.fetches = [] → (∀ m ∈ r.waiting, m.isFetched = true) → (r.drain w).waiting = []) := by
  obtain ⟨hwaiting, hnow, hplain⟩ := handle_kept (w := w) r.waiting { r with waiting := [] }
  obtain ⟨-, hnow', hfetches, brought, hbrought, hall⟩ :=
    (handle w r.waiting { r with waiting := [] }).settle_kept (w := w)
  rw [hwaiting, List.nil_append] at hbrought
  refine ⟨hnow'.trans hnow, hfetches, fun m hm => hall m (hbrought ▸ hm), fun hnone hr => ?_⟩
  rw [drain, settle_of_nil ((hplain hr).trans hnone)]
  exact hwaiting

end Rehearsal

namespace Task

variable {σ : Type} {w : World σ} {r : Rehearsal σ} {limit : Instant}

/-- A second round takes what the fetches of the first one have brought. -/
theorem quiesce_idle (w : World σ) (r : Rehearsal σ) :
    (quiesce w r).Idle ∧ (quiesce w r).now = r.now := by
  obtain ⟨-, hnow, -⟩ := r.settle_kept (w := w)
  obtain ⟨hnow', hfetches', hall, -⟩ := (r.settle w).drain_kept (w := w)
  obtain ⟨hnow'', hfetches, -, hwaiting⟩ := ((r.settle w).drain w).drain_kept (w := w)
  exact ⟨⟨hwaiting hfetches' hall, hfetches⟩, hnow''.trans (hnow'.trans hnow)⟩

theorem quiesce_of_idle (h : r.Idle) : quiesce w r = r := by
  have hsame : { r with waiting := [] } = r := by rw [← h.waiting]
  have hdrain : r.drain w = r := by
    rw [Rehearsal.drain, h.waiting, hsame]
    exact Rehearsal.settle_of_nil h.fetches
  rw [quiesce, Rehearsal.settle_of_nil h.fetches, hdrain, hdrain]

theorem waitRounds_now (w : World σ) (limit : Instant) (n : Nat) (r : Rehearsal σ) :
    (waitRounds w limit n r).now = limit := by
  induction n generalizing r with
  | zero => rfl
  | succ n ih =>
    unfold waitRounds
    split
    · split
      · exact ih _
      · rfl
    · rfl

/-- What every tick keeps that falls due by `limit`, and the last part of the way, is kept while
time passes until then. Each tick moves the clock on, so the rounds suffice. -/
theorem waitRounds_invariant {P : Rehearsal σ → Prop}
    (ahead : ∀ r due, P r → r.session.poller.nextDue? = some due → r.now < due)
    (tick : ∀ r due, P r → r.session.poller.nextDue? = some due → due ≤ limit →
      P (quiesce w (r.waitUntil due)))
    (last : ∀ r, P r → r.now ≤ limit →
      (∀ due, r.session.poller.nextDue? = some due → limit < due) → P (r.waitUntil limit))
    (n : Nat) (hr : P r) (hle : r.now ≤ limit) (hn : limit ≤ r.now + n) :
    P (waitRounds w limit n r) := by
  -- As many rounds are left as time up to `limit`, or more, and each tick takes some of that time.
  induction n generalizing r with
  | zero =>
    refine last r hr hle fun due hdue => ?_
    exact Nat.lt_of_le_of_lt hn (ahead r due hr hdue)
  | succ n ih =>
    unfold waitRounds
    split
    · rename_i due hdue
      split
      · rename_i hlimit
        have hlt := ahead r due hr hdue
        have hnow : (quiesce w (r.waitUntil due)).now = due := (quiesce_idle w _).2
        refine ih (tick r due hr hdue hlimit) (Nat.le_trans (Nat.le_of_eq hnow) hlimit) ?_
        rw [hnow]
        exact Nat.le_trans hn (Nat.le_trans (Nat.le_of_eq (Nat.add_right_comm r.now n 1))
          (Nat.add_le_add_right hlt n))
      · rename_i hlimit
        refine last r hr hle fun other hother => ?_
        obtain rfl := Option.some.inj (hdue.symm.trans hother)
        exact Nat.lt_of_not_le hlimit
    · rename_i hdue
      exact last r hr hle fun other hother => nomatch hdue.symm.trans hother

end Task

namespace Rehearsal

variable {σ : Type} {w : World σ} {r : Rehearsal σ} {id : String} {limit due : Instant}

/-- The session has come from a fresh one, and the next tick of its timer is not there yet. -/
structure Tidy (id : String) (r : Rehearsal σ) : Prop where
  run : ∃ run, r.session = (Session.fresh id).after run
  ahead : ∀ t, r.session.poller.timer = some t → r.now < t.due

namespace Tidy

theorem of_session {r' : Rehearsal σ} (h : r.Tidy id) (hs : r'.session = r.session)
    (hn : r'.now = r.now) : r'.Tidy id := by
  refine ⟨hs ▸ h.run, ?_⟩
  rw [hs, hn]
  exact h.ahead

theorem perform (h : r.Tidy id) (op : Operation) : (r.perform w op).1.Tidy id := by
  obtain ⟨run, hrun⟩ := h.run
  let i : Incident := .operation op (w.answers r.now r.world)
  change (r.follow w (r.session.undergo i)).Tidy id
  obtain ⟨hsession, -, hnow, -⟩ := r.follow_kept (w := w) (r.session.undergo i)
  replace hsession : (r.follow w (r.session.undergo i)).session =
      (Session.fresh id).after (run ++ [i]) := by
    rw [hsession, Session.after_concat, hrun]
  refine ⟨⟨run ++ [i], hsession⟩, fun t ht => ?_⟩
  rw [hnow]
  rw [hsession] at ht
  have hregular := (Session.paced_after id (run ++ [i])).regular
  have hpositive : t.period ≠ 0 := hregular.period t ht ▸ hregular.positive
  rw [Session.after_concat] at ht
  rcases Session.timer_origin (Session.paced_after id run) i ht with hb | ⟨t', k, ht', rfl⟩
  · obtain ⟨_, _, hi, -, -, hdue⟩ := hb
    cases hi
    rw [hdue]
    exact Nat.lt_add_of_pos_right (Nat.pos_of_ne_zero hpositive)
  · exact Nat.lt_of_lt_of_le (h.ahead t' (hrun ▸ ht')) (Nat.le_add_right _ _)

theorem settle (h : r.Tidy id) : (r.settle w).Tidy id := by
  obtain ⟨hsession, hnow, -⟩ := r.settle_kept (w := w)
  exact h.of_session hsession hnow

theorem handle (h : r.Tidy id) (messages : List Handoff) : (r.handle w messages).Tidy id := by
  induction messages generalizing r with
  | nil => exact h
  | cons m rest ih => exact ih (h.perform _)

theorem drain (h : r.Tidy id) : (r.drain w).Tidy id :=
  (handle (r := { r with waiting := [] }) (h.of_session rfl rfl) r.waiting).settle

theorem quiesce (h : r.Tidy id) : (Task.quiesce w r).Tidy id := h.settle.drain.drain

theorem nextDue?_eq (h : r.Tidy id) :
    r.session.poller.nextDue? = r.session.poller.timer.map (·.due) := by
  obtain ⟨run, hrun⟩ := h.run
  have hunended := Session.unended_after id run
  rw [← hrun] at hunended
  unfold Poller.nextDue?
  cases ht : r.session.poller.timer with
  | none => rfl
  | some t => simp [hunended t ht]

theorem waitUntil (h : r.Tidy id) (limit : Instant) : (r.waitUntil limit).Tidy id := by
  obtain ⟨run, hrun⟩ := h.run
  refine ⟨⟨run ++ [.wait limit], ?_⟩, fun t ht => ?_⟩
  · rw [Session.after_concat, ← hrun]
    rfl
  · have hregular := (Session.paced_after id run).regular
    rw [← hrun] at hregular
    change (r.session.poller.elapse limit true).1.timer = some t at ht
    cases htimer : r.session.poller.timer with
    | none => simp [Poller.elapse, htimer] at ht
    | some t' =>
      rw [Poller.elapse_heard htimer] at ht
      cases ht
      exact Timer.lt_due_ticked (hregular.unended t' htimer)
        (hregular.period t' htimer ▸ hregular.positive)

end Tidy

/-- Nothing ticks on the way to a time before the next tick. -/
theorem waitUntil_quiet (h : ∀ t, r.session.poller.timer = some t → limit < t.due) :
    r.waitUntil limit = { r with now := limit } := by
  have helapse : r.session.poller.elapse limit true = (r.session.poller, []) := by
    unfold Poller.elapse
    cases ht : r.session.poller.timer with
    | none => rfl
    | some t => simp [Timer.dueBy, h t ht]
  simp only [waitUntil, helapse, List.append_nil]

end Rehearsal

namespace Task

variable {σ : Type} {w : World σ} {t : Task σ} {id : String}

/-- A task of a fresh session to which calls have been made, with waits in between. The messages of
the background are not among the calls: the task takes them by itself. -/
inductive Reached (w : World σ) (id : String) : Task σ → Prop where
  | spawn (world : σ) : Reached w id (.spawn (.fresh id) world)
  | call {t : Task σ} {op : Operation} (reached : Reached w id t) (own : ∀ m, op ≠ .handoff m) :
      Reached w id (t.call w op).1
  | wait {t : Task σ} (reached : Reached w id t) (d : Duration) : Reached w id (t.wait w d)

theorem call_eq (h : t.isAborted = false) (op : Operation) :
    (t.call w op).1 = { t with rehearsal := quiesce w (t.rehearsal.perform w op).1 } := by
  simp [call, h]

theorem wait_eq (h : t.isAborted = false) (d : Duration) :
    t.wait w d =
      { t with rehearsal := waitRounds w (t.rehearsal.now + d) d t.rehearsal } := by
  simp [wait, h]

theorem Reached.tidy (h : Reached w id t) :
    t.isAborted = false ∧ t.rehearsal.Idle ∧ t.rehearsal.Tidy id := by
  induction h with
  | spawn world => exact ⟨rfl, ⟨rfl, rfl⟩, ⟨[], rfl⟩, nofun⟩
  | call reached own ih =>
    obtain ⟨haborted, -, htidy⟩ := ih
    rw [call_eq haborted]
    exact ⟨haborted, (quiesce_idle w _).1, (htidy.perform _).quiesce⟩
  | wait reached d ih =>
    obtain ⟨haborted, hidle, htidy⟩ := ih
    rw [wait_eq haborted]
    refine ⟨haborted, waitRounds_invariant (P := fun r => r.Idle ∧ r.Tidy id) ?_ ?_ ?_ d
      ⟨hidle, htidy⟩ (Nat.le_add_right _ _) (Nat.le_refl _)⟩
    · rintro r due ⟨-, htidy⟩ hdue
      rw [htidy.nextDue?_eq] at hdue
      obtain ⟨timer, ht, rfl⟩ := Option.map_eq_some_iff.mp hdue
      exact htidy.ahead timer ht
    · rintro r due ⟨-, htidy⟩ - -
      exact ⟨(quiesce_idle w _).1, (htidy.waitUntil due).quiesce⟩
    · rintro r ⟨hidle, htidy⟩ - hlimit
      refine ⟨?_, htidy.waitUntil _⟩
      rw [Rehearsal.waitUntil_quiet fun timer ht =>
        hlimit timer.due (by rw [htidy.nextDue?_eq, ht]; rfl)]
      exact ⟨hidle.waiting, hidle.fetches⟩

end Task

end Playback
