import Playback.Polling.Timeline
import Playback.Proofs.Polling.Staleness

/-! When a poller ticks. On a clock, whatever starts, stops and waits come one after another, the
ticks that have been sent are those of each timer at its first due time and then after each period,
as far as a wait has come to that time while the timer was live, and there are no others. -/

namespace Playback

theorem Timing.normalized_cases (t : Timing) :
    t.delay ≠ 0 ∧ t.period ≠ 0 ∧ t.normalized = t ∨
      (t.delay = 0 ∨ t.period = 0) ∧ t.normalized = .every (.millis 18000) := by
  unfold normalized
  split
  · exact .inr ⟨‹_›, rfl⟩
  · rename_i h
    exact .inl ⟨(not_or.mp h).1, (not_or.mp h).2, rfl⟩

theorem Timing.normalized_positive (t : Timing) :
    t.normalized.delay ≠ 0 ∧ t.normalized.period ≠ 0 := by
  rcases t.normalized_cases with ⟨hdelay, hperiod, h⟩ | ⟨-, h⟩
  · rw [h]
    exact ⟨hdelay, hperiod⟩
  · rw [h]
    decide

namespace Timer

variable {t : Timer} {limit time : Instant}

theorem ticked_ticked (t : Timer) (n k : Nat) : (t.ticked n).ticked k = t.ticked (n + k) := by
  simp only [ticked, Nat.add_mul, Nat.add_assoc]

theorem dueBy_eq (ho : t.isOver = false) :
    t.dueBy limit = if limit < t.due then 0 else (limit - t.due) / t.period + 1 := by
  simp [dueBy, ho]

/-- A tick falls due by `limit` if it is one of the first `dueBy limit` ones. -/
theorem lt_dueBy_iff (ho : t.isOver = false) (hp : t.period ≠ 0) (k : Nat) :
    k < t.dueBy limit ↔ t.due + k * t.period ≤ limit := by
  rw [dueBy_eq ho]
  split
  · rename_i hlimit
    refine iff_of_false (Nat.not_lt_zero k) fun hle => ?_
    exact Nat.not_lt_of_le (Nat.le_trans (Nat.le_add_right _ _) hle) hlimit
  · rename_i hlimit
    have hpos : 0 < t.period := Nat.pos_of_ne_zero hp
    rw [Nat.lt_succ_iff, Nat.le_div_iff_mul_le hpos,
      Nat.le_sub_iff_add_le' (Nat.le_of_not_lt hlimit)]

theorem mem_dueTimes (ho : t.isOver = false) (hp : t.period ≠ 0) :
    time ∈ t.dueTimes limit ↔ ∃ k, time = t.due + k * t.period ∧ time ≤ limit := by
  simp only [dueTimes, List.mem_map, List.mem_range]
  constructor
  · rintro ⟨k, hk, rfl⟩
    exact ⟨k, rfl, (lt_dueBy_iff ho hp k).mp hk⟩
  · rintro ⟨k, rfl, hle⟩
    exact ⟨k, (lt_dueBy_iff ho hp k).mpr hle, rfl⟩

theorem dueTimes_increasing (hp : t.period ≠ 0) : (t.dueTimes limit).Pairwise (· < ·) := by
  rw [dueTimes, List.pairwise_map]
  refine List.pairwise_lt_range.imp fun hlt => ?_
  have hpos : 0 < t.period := Nat.pos_of_ne_zero hp
  exact Nat.add_lt_add_left ((Nat.mul_lt_mul_right hpos).mpr hlt) t.due

theorem lt_due_ticked (ho : t.isOver = false) (hp : t.period ≠ 0) :
    limit < (t.ticked (t.dueBy limit)).due := by
  have hnot : ¬t.due + t.dueBy limit * t.period ≤ limit := fun hle =>
    Nat.lt_irrefl _ ((lt_dueBy_iff ho hp _).mpr hle)
  exact Nat.lt_of_not_le hnot

/-- The ticks of a timer that has ticked `n` times, up to `now`, are those that are due later. -/
theorem mem_dueTimes_ticked {n : Nat} {now : Instant} (ho : t.isOver = false) (hp : t.period ≠ 0)
    (hahead : now < (t.ticked n).due) (hdone : ∀ k < n, t.due + k * t.period ≤ now) :
    time ∈ (t.ticked n).dueTimes limit ↔
      ∃ k, time = t.due + k * t.period ∧ now < time ∧ time ≤ limit := by
  have ho' : (t.ticked n).isOver = false := ho
  have hp' : (t.ticked n).period ≠ 0 := hp
  rw [mem_dueTimes ho' hp']
  constructor
  · rintro ⟨k, rfl, hle⟩
    refine ⟨n + k, ?_, Nat.lt_of_lt_of_le hahead (Nat.le_add_right _ _), hle⟩
    simp only [ticked, Nat.add_mul, Nat.add_assoc]
  · rintro ⟨k, rfl, hlt, hle⟩
    have hkn : n ≤ k := by
      by_contra hlt'
      exact Nat.not_lt_of_le (hdone k (Nat.lt_of_not_le hlt')) hlt
    obtain ⟨j, rfl⟩ := Nat.exists_eq_add_of_le hkn
    exact ⟨j, by simp only [ticked, Nat.add_mul, Nat.add_assoc], hle⟩

/-- All the ticks of a timer that were due by `limit` are those before and those on the way. -/
theorem due_le_of_lt_dueBy {n k : Nat} {now : Instant} (ho : t.isOver = false) (hp : t.period ≠ 0)
    (hnow : now ≤ limit) (hdone : ∀ k < n, t.due + k * t.period ≤ now)
    (hk : k < n + (t.ticked n).dueBy limit) : t.due + k * t.period ≤ limit := by
  by_cases hkn : k < n
  · exact Nat.le_trans (hdone k hkn) hnow
  · obtain ⟨j, rfl⟩ := Nat.exists_eq_add_of_le (Nat.le_of_not_lt hkn)
    have ho' : (t.ticked n).isOver = false := ho
    have hp' : (t.ticked n).period ≠ 0 := hp
    have hj := (lt_dueBy_iff ho' hp' j).mp (Nat.lt_of_add_lt_add_left hk)
    simpa only [ticked, Nat.add_mul, Nat.add_assoc] using hj

end Timer

theorem Poller.start_period (p : Poller) (clock : Option Instant) (timing : Timing) :
    (p.start clock timing).period = p.period := by
  cases clock <;> rfl

theorem Poller.elapse_heard {p : Poller} {t : Timer} (ht : p.timer = some t) (limit : Instant) :
    p.elapse limit true =
      ({ p with timer := some (t.ticked (t.dueBy limit)) },
        (t.dueTimes limit).map fun _ => .tick t.generation) := by
  unfold elapse
  simp only [ht, ↓reduceIte]
  split
  · rename_i hn
    have hsame : t.ticked 0 = t := by simp [Timer.ticked]
    rw [Timer.dueTimes, hn, hsame, ← ht]
    rfl
  · simp [Timer.dueTimes, Timer.ticked, Function.comp_def, List.map_const']

namespace Timeline

/-- What is done on a timeline. -/
inductive Act where
  | start (timing : Timing)
  | startStandard
  | setPeriod (period : Duration)
  | stop
  | wait (d : Duration)
  deriving DecidableEq, Repr

def perform (t : Timeline) : Act → Timeline
  | .start timing => t.start timing
  | .startStandard => t.startStandard
  | .setPeriod period => t.setPeriod period
  | .stop => t.stop
  | .wait d => t.wait d

/-- What an act does to the poller. -/
def turn (t : Timeline) : Act → Turn
  | .start timing => .start t.clock timing
  | .startStandard => .startStandard t.clock
  | .setPeriod period => .setPeriod t.clock period
  | .stop => .stop
  | .wait d => .elapse (t.now + d) t.channel.isOpen

/-- A poller with this standard period, at the start of the clock and with nothing sent. -/
def ofPeriod (period : Duration) : Timeline := { poller := .ofPeriod period }

def after (t : Timeline) (acts : List Act) : Timeline := acts.foldl perform t

/-- The period that the act sets, if it sets one. -/
def Act.period? : Act → Option Duration
  | .setPeriod period => some period
  | _ => none

/-- The timer that an entry of a trace starts. -/
def started? (e : Timeline × Act) : Option Timer := (e.1.turn e.2).timer? e.1.poller

/-- The entry stops or replaces the timer that is there. -/
def replaces (e : Timeline × Act) : Bool := (e.1.turn e.2).replaces e.1.poller

/-- The entry waits over `time`, or just up to it. -/
def Reaches (e : Timeline × Act) (time : Instant) : Prop :=
  ∃ d, e.2 = .wait d ∧ e.1.now < time ∧ time ≤ e.1.now + d

/-- The timer has been started, and neither stopped nor replaced since. -/
def Live (h : List (Timeline × Act)) (timer : Timer) : Prop :=
  Persists (started? · = some timer) (replaces · = true) h

/-- A wait has come to `time` while a timer with the generation `g` was live, and `time` is its
first due time or some periods after it. -/
def FallsDue (h : List (Timeline × Act)) (time : Instant) (g : Nat) : Prop :=
  ∃ past e rest timer k, h = past ++ e :: rest ∧ Reaches e time ∧ Live past timer ∧
    g = timer.generation ∧ time = timer.due + k * timer.period

section Concat

variable {h : List (Timeline × Act)} {x : Timeline × Act} {timer : Timer}

theorem live_concat :
    Live (h ++ [x]) timer ↔ started? x = some timer ∨ Live h timer ∧ replaces x = false := by
  rw [← Bool.not_eq_true]
  exact persists_concat

theorem fallsDue_concat {time : Instant} {g : Nat} :
    FallsDue (h ++ [x]) time g ↔ FallsDue h time g ∨
      Reaches x time ∧ ∃ timer k, Live h timer ∧ g = timer.generation ∧
        time = timer.due + k * timer.period := by
  constructor
  · rintro ⟨past, e, rest, timer, k, hsplit, hreach, hlive, hg, htime⟩
    rcases concat_eq_append_cons hsplit with ⟨rfl, rfl, rfl⟩ | ⟨init, rfl, rfl⟩
    · exact .inr ⟨hreach, timer, k, hlive, hg, htime⟩
    · exact .inl ⟨past, e, init, timer, k, rfl, hreach, hlive, hg, htime⟩
  · rintro (⟨past, e, rest, timer, k, rfl, hdue⟩ | ⟨hreach, timer, k, hlive, hg, htime⟩)
    · exact ⟨past, e, rest ++ [x], timer, k, by simp, hdue⟩
    · exact ⟨h, x, [], timer, k, rfl, hreach, hlive, hg, htime⟩

end Concat

variable {t : Timeline} {act : Act}

theorem perform_poller (t : Timeline) (act : Act) :
    (t.perform act).poller = t.poller.undergo (t.turn act) := by
  cases act <;> rfl

theorem perform_hasClock (t : Timeline) (act : Act) :
    (t.perform act).hasClock = t.hasClock := by
  cases act <;> rfl

/-- Only a wait moves the clock and sends anything. -/
theorem perform_kept (h : ∀ d, act ≠ .wait d) :
    (t.perform act).now = t.now ∧ (t.perform act).channel = t.channel := by
  cases act with
  | wait d => exact absurd rfl (h d)
  | _ => exact ⟨rfl, rfl⟩

theorem not_reaches (h : ∀ d, act ≠ .wait d) (time : Instant) : ¬Reaches (t, act) time := by
  rintro ⟨d, hd, -⟩
  exact h d hd

theorem reaches_wait {d : Duration} {time : Instant} :
    Reaches (t, .wait d) time ↔ t.now < time ∧ time ≤ t.now + d := by
  simp [Reaches]

theorem live_wait {h : List (Timeline × Act)} {d : Duration} {timer : Timer} :
    Live (h ++ [(t, .wait d)]) timer ↔ Live h timer := by
  rw [live_concat]
  exact ⟨fun hl => hl.elim nofun And.left, fun hl => .inr ⟨hl, rfl⟩⟩

theorem wait_eq (ho : t.channel.isOpen = true) (d : Duration) :
    t.perform (.wait d) =
      { t with
        now := t.now + d
        poller := (t.poller.elapse (t.now + d) true).1
        channel.queue := t.channel.queue ++ (t.poller.elapse (t.now + d) true).2 } := by
  simp only [perform, wait, ho, Channel.send, ↓reduceIte]

theorem perform_period (t : Timeline) (act : Act) :
    (t.perform act).poller.period = (act.period?.map Duration.orDefault).getD t.poller.period := by
  cases act with
  | start timing => exact t.poller.start_period t.clock timing
  | startStandard => exact t.poller.start_period t.clock _
  | setPeriod period =>
    cases hr : t.poller.isRunning with
    | false =>
      simp only [perform, Timeline.setPeriod, Poller.setPeriod_idle hr, Act.period?,
        Option.map_some, Option.getD_some]
    | true =>
      simp only [perform, Timeline.setPeriod, Poller.setPeriod_running hr, Poller.start_period,
        Act.period?, Option.map_some, Option.getD_some]
  | stop => rfl
  | wait d => exact (t.poller.elapse_kept (t.now + d) t.channel.isOpen).2.2

theorem isRunning_of_keeps (hact : ∀ d, act ≠ .wait d) (h : replaces (t, act) = false) :
    t.poller.isRunning = false := by
  cases act with
  | setPeriod => exact h
  | wait d => exact absurd rfl (hact d)
  | _ => exact nomatch h

theorem clock?_turn {asked : Timing} (h : (t.turn act).timing? t.poller = some asked) :
    (t.turn act).clock? = t.clock := by
  cases act with
  | stop | wait => cases h
  | _ => rfl

theorem started_eq {timer : Timer} (h : started? (t, act) = some timer) :
    ∃ asked, (t.turn act).timing? t.poller = some asked ∧ timer.isOver = false ∧
      timer.due = t.now + asked.normalized.delay ∧ timer.period = asked.normalized.period := by
  unfold started? Turn.timer? at h
  split at h
  · rename_i asked now hasked hnow
    cases h
    refine ⟨asked, hasked, rfl, ?_, rfl⟩
    rw [clock?_turn hasked, clock] at hnow
    split at hnow
    · cases hnow
      rfl
    · cases hnow
  · cases h

theorem started_some {asked : Timing} (hclock : t.hasClock = true)
    (h : (t.turn act).timing? t.poller = some asked) : (started? (t, act)).isSome = true := by
  have hnow : t.clock = some t.now := by simp [clock, hclock]
  simp [started?, Turn.timer?, h, clock?_turn h, hnow]

theorem started_ahead {timer : Timer} (h : started? (t, act) = some timer) :
    timer.isOver = false ∧ timer.period ≠ 0 ∧ t.now < timer.due := by
  obtain ⟨asked, -, hover, hdue, hperiod⟩ := started_eq h
  obtain ⟨hdelay, hnonzero⟩ := asked.normalized_positive
  rw [hdue, hperiod]
  exact ⟨hover, hnonzero, Nat.lt_add_of_pos_right (Nat.pos_of_ne_zero hdelay)⟩

/-- How the timeline stands after what the trace `h` tells. -/
structure Standing (h : List (Timeline × Act)) (t : Timeline) : Prop where
  clock : t.hasClock = true
  isOpen : t.channel.isOpen = true
  period : t.poller.period ≠ 0
  idle : t.poller.timer = none → ∀ timer, ¬Live h timer
  /-- The timer that is there is the one that is live, and has ticked up to now. -/
  live : ∀ now, t.poller.timer = some now → ∃ timer n, Live h timer ∧
    (∀ other, Live h other → other = timer) ∧ now = timer.ticked n ∧ timer.isOver = false ∧
    timer.period ≠ 0 ∧ t.now < now.due ∧ ∀ k < n, timer.due + k * timer.period ≤ t.now
  sent : ∃ ticks : List (Instant × Nat), t.channel.queue = ticks.map (fun x => .tick x.2) ∧
    ticks.Pairwise (fun x y => x.1 < y.1) ∧ (∀ x ∈ ticks, x.1 ≤ t.now) ∧
    ∀ time g, (time, g) ∈ ticks ↔ FallsDue h time g

namespace Standing

variable {h : List (Timeline × Act)}

theorem start (period : Duration) : Standing [] (ofPeriod period) := by
  refine ⟨rfl, rfl, period.orDefault_ne_zero, ?_, ?_, ⟨[], rfl, .nil, by simp, ?_⟩⟩
  · rintro - timer ⟨past, e, rest, hsplit, -⟩
    simp at hsplit
  · rintro now ⟨⟩
  · rintro time g
    constructor
    · intro hmem
      cases hmem
    · rintro ⟨past, e, rest, timer, k, hsplit, -⟩
      simp at hsplit

theorem wait_idle (hs : Standing h t) (htimer : t.poller.timer = none) (d : Duration) :
    Standing (h ++ [(t, .wait d)]) (t.perform (.wait d)) := by
  obtain ⟨ticks, hqueue, hsorted, hpast, hmem⟩ := hs.sent
  have helapse : t.poller.elapse (t.now + d) true = (t.poller, []) := by
    simp [Poller.elapse, htimer]
  have hnone := hs.idle htimer
  rw [wait_eq hs.isOpen, helapse]
  refine ⟨hs.clock, hs.isOpen, hs.period, ?_, ?_, ⟨ticks, by simp [hqueue], hsorted, ?_, ?_⟩⟩
  · intro _ timer
    rw [live_wait]
    exact hnone timer
  · intro now hnow
    rw [htimer] at hnow
    cases hnow
  · intro x hx
    exact Nat.le_trans (hpast x hx) (Nat.le_add_right _ _)
  · intro time g
    rw [hmem, fallsDue_concat]
    refine ⟨.inl, fun hdue => hdue.elim id ?_⟩
    rintro ⟨-, timer, k, hl, -⟩
    exact absurd hl (hnone timer)

theorem wait_running (hs : Standing h t) {now : Timer} (htimer : t.poller.timer = some now)
    (d : Duration) : Standing (h ++ [(t, .wait d)]) (t.perform (.wait d)) := by
  obtain ⟨ticks, hqueue, hsorted, hpast, hmem⟩ := hs.sent
  obtain ⟨timer, n, hl, honly, rfl, hover, hperiod, hahead, hdone⟩ := hs.live now htimer
  -- The times at which this timer falls due during the wait.
  have hnew : ∀ time, time ∈ (timer.ticked n).dueTimes (t.now + d) ↔ _ := fun time =>
    Timer.mem_dueTimes_ticked hover hperiod hahead hdone
  rw [wait_eq hs.isOpen, Poller.elapse_heard htimer]
  refine ⟨hs.clock, hs.isOpen, hs.period, nofun, ?_, ticks ++
    ((timer.ticked n).dueTimes (t.now + d)).map (·, timer.generation), ?_, ?_, ?_, ?_⟩
  · rintro _ ⟨⟩
    refine ⟨timer, n + (timer.ticked n).dueBy (t.now + d), live_wait.mpr hl,
      fun other hother => honly other (live_wait.mp hother), Timer.ticked_ticked .., hover, hperiod,
      Timer.lt_due_ticked hover hperiod, fun k => ?_⟩
    exact Timer.due_le_of_lt_dueBy hover hperiod (Nat.le_add_right _ _) hdone
  · rw [hqueue]
    simp only [List.map_append, List.map_map]
    rfl
  · rw [List.pairwise_append, List.pairwise_map]
    refine ⟨hsorted, Timer.dueTimes_increasing hperiod, fun x hx y hy => ?_⟩
    obtain ⟨time, htime, rfl⟩ := List.mem_map.mp hy
    obtain ⟨-, -, hlt, -⟩ := (hnew time).mp htime
    exact Nat.lt_of_le_of_lt (hpast x hx) hlt
  · intro x hx
    rcases List.mem_append.mp hx with hx | hx
    · exact Nat.le_trans (hpast x hx) (Nat.le_add_right _ _)
    · obtain ⟨time, htime, rfl⟩ := List.mem_map.mp hx
      obtain ⟨-, -, -, hle⟩ := (hnew time).mp htime
      exact hle
  · intro time g
    rw [List.mem_append, hmem, fallsDue_concat, reaches_wait]
    refine or_congr_right ⟨?_, ?_⟩
    · intro hin
      obtain ⟨_, htime, heq⟩ := List.mem_map.mp hin
      cases heq
      obtain ⟨k, heq, hlt, hle⟩ := (hnew time).mp htime
      exact ⟨⟨hlt, hle⟩, timer, k, hl, rfl, heq⟩
    · rintro ⟨⟨hlt, hle⟩, other, k, hother, rfl, heq⟩
      obtain rfl := honly other hother
      exact List.mem_map.mpr ⟨time, (hnew time).mpr ⟨k, heq, hlt, hle⟩, rfl⟩

theorem wait (hs : Standing h t) (d : Duration) :
    Standing (h ++ [(t, .wait d)]) (t.perform (.wait d)) := by
  cases htimer : t.poller.timer with
  | none => exact hs.wait_idle htimer d
  | some now => exact hs.wait_running htimer d

/-- What does not wait leaves what was sent as it is, and no time passes. -/
theorem sent_kept (hs : Standing h t) (hact : ∀ d, act ≠ .wait d) :
    ∃ ticks : List (Instant × Nat),
      (t.perform act).channel.queue = ticks.map (fun x => .tick x.2) ∧
      ticks.Pairwise (fun x y => x.1 < y.1) ∧ (∀ x ∈ ticks, x.1 ≤ (t.perform act).now) ∧
      ∀ time g, (time, g) ∈ ticks ↔ FallsDue (h ++ [(t, act)]) time g := by
  obtain ⟨hnow, hchannel⟩ := perform_kept (t := t) hact
  obtain ⟨ticks, hqueue, hsorted, hpast, hmem⟩ := hs.sent
  rw [hnow, hchannel]
  refine ⟨ticks, hqueue, hsorted, hpast, fun time g => ?_⟩
  rw [hmem, fallsDue_concat]
  refine ⟨.inl, fun hdue => hdue.elim id ?_⟩
  rintro ⟨hreach, -⟩
  exact absurd hreach (not_reaches hact time)

theorem timer_eq_none (hs : Standing h t) (hidle : t.poller.isRunning = false) :
    t.poller.timer = none := by
  cases htimer : t.poller.timer with
  | none => rfl
  | some now =>
    obtain ⟨timer, n, -, -, rfl, hover, -⟩ := hs.live now htimer
    have hover' : (timer.ticked n).isOver = false := hover
    simp [Poller.isRunning, htimer, hover'] at hidle

theorem step (hs : Standing h t) (hact : ∀ d, act ≠ .wait d) :
    Standing (h ++ [(t, act)]) (t.perform act) := by
  obtain ⟨hnow, hchannel⟩ := perform_kept (t := t) hact
  have hperiod : (t.perform act).poller.period ≠ 0 := by
    rw [perform_period]
    cases act.period? with
    | none => exact hs.period
    | some period => exact period.orDefault_ne_zero
  refine ⟨(t.perform_hasClock act).trans hs.clock, hchannel ▸ hs.isOpen, hperiod, ?_, ?_,
    hs.sent_kept hact⟩
  -- Both parts about the timer turn on whether the act replaces it.
  all_goals cases hr : replaces (t, act)
  case refine_1.false =>
    intro _ timer hlive
    obtain ⟨hnone, -⟩ := Poller.undergo_keeps hr
    rcases live_concat.mp hlive with hstarted | ⟨hlive, -⟩
    · exact nomatch hnone.symm.trans hstarted
    · exact hs.idle (hs.timer_eq_none (isRunning_of_keeps hact hr)) timer hlive
  case refine_1.true =>
    intro hnone timer hlive
    rw [perform_poller, (Poller.undergo_replaces hr).2] at hnone
    rcases live_concat.mp hlive with hstarted | ⟨-, hkept⟩
    · exact nomatch hnone.symm.trans hstarted
    · exact nomatch hr.symm.trans hkept
  case refine_2.false =>
    intro now htimer
    have hsame := (Poller.undergo_keeps hr).2.2
    rw [← perform_poller, htimer, hs.timer_eq_none (isRunning_of_keeps hact hr)] at hsame
    cases hsame
  case refine_2.true =>
    intro now htimer
    rw [perform_poller, (Poller.undergo_replaces hr).2] at htimer
    have hlive : ∀ other, Live (h ++ [(t, act)]) other ↔ other = now := by
      intro other
      rw [live_concat]
      constructor
      · rintro (hstarted | ⟨-, hkept⟩)
        · exact Option.some.inj (hstarted.symm.trans htimer)
        · exact nomatch hr.symm.trans hkept
      · rintro rfl
        exact .inl htimer
    obtain ⟨hover, hnonzero, hahead⟩ := started_ahead htimer
    refine ⟨now, 0, (hlive now).mpr rfl, fun other => (hlive other).mp, by simp [Timer.ticked],
      hover, hnonzero, hnow ▸ hahead, fun k hk => absurd hk (Nat.not_lt_zero k)⟩

theorem after (period : Duration) (acts : List Act) :
    Standing (trace perform (ofPeriod period) acts) ((ofPeriod period).after acts) := by
  induction acts using List.reverseRecOn with
  | nil => exact start period
  | append_singleton acts act ih =>
    rw [trace_concat, Timeline.after, List.foldl_append]
    cases act with
    | wait d => exact ih.wait d
    | _ => exact ih.step nofun

/-- No two timers are live at a time. -/
theorem single (hs : Standing h t) {timer other : Timer} (htimer : Live h timer)
    (hother : Live h other) : timer = other := by
  cases hnow : t.poller.timer with
  | none => exact absurd htimer (hs.idle hnow timer)
  | some now =>
    obtain ⟨first, -, -, honly, -⟩ := hs.live now hnow
    rw [honly timer htimer, honly other hother]

theorem running (hs : Standing h t) : t.poller.isRunning = true ↔ ∃ timer, Live h timer := by
  cases hnow : t.poller.timer with
  | none =>
    refine iff_of_false (by simp [Poller.isRunning, hnow]) ?_
    rintro ⟨timer, htimer⟩
    exact hs.idle hnow timer htimer
  | some now =>
    obtain ⟨timer, n, hlive, -, rfl, hover, -⟩ := hs.live now hnow
    have hover' : (timer.ticked n).isOver = false := hover
    exact iff_of_true (by simp [Poller.isRunning, hnow, hover']) ⟨timer, hlive⟩

end Standing

/-- A timer is started with the timing that is asked for, or with the default one. -/
theorem started_fair {asked : Timing} {timer : Timer}
    (hasked : (t.turn act).timing? t.poller = some asked)
    (htimer : started? (t, act) = some timer) :
    asked.delay ≠ 0 ∧ asked.period ≠ 0 ∧ timer.due = t.now + asked.delay ∧
        timer.period = asked.period ∨
      (asked.delay = 0 ∨ asked.period = 0) ∧ timer.due = t.now + Duration.millis 18000 ∧
        timer.period = Duration.millis 18000 := by
  obtain ⟨asked', hasked', -, hdue, hperiod⟩ := started_eq htimer
  obtain rfl := Option.some.inj (hasked'.symm.trans hasked)
  rw [hdue, hperiod]
  rcases asked'.normalized_cases with ⟨hdelay, hnonzero, hn⟩ | ⟨hzero, hn⟩
  · rw [hn]
    exact .inl ⟨hdelay, hnonzero, rfl, rfl⟩
  · rw [hn]
    exact .inr ⟨hzero, rfl, rfl⟩

theorem setPeriod_resumes (hclock : t.hasClock = true) (hr : t.poller.isRunning = true)
    (new : Duration) :
    ∃ timer, started? (t, .setPeriod new) = some timer ∧
      (t.perform (.setPeriod new)).poller.timer = some timer ∧
      timer.due = t.now + new.orDefault ∧ timer.period = new.orDefault := by
  have hasked : (t.turn (.setPeriod new)).timing? t.poller = some (.every new.orDefault) := by
    simp [turn, Turn.timing?, hr]
  obtain ⟨timer, htimer⟩ := Option.isSome_iff_exists.mp (started_some hclock hasked)
  refine ⟨timer, htimer, (Poller.undergo_starts htimer).2.2, ?_⟩
  rcases started_fair hasked htimer with ⟨-, -, hdue, hperiod⟩ | ⟨hzero, -⟩
  · exact ⟨hdue, hperiod⟩
  · exact absurd (hzero.elim id id) new.orDefault_ne_zero

theorem after_period (period : Duration) (acts : List Act) :
    ((ofPeriod period).after acts).poller.period =
      ((acts.filterMap Act.period?).getLast?.getD period).orDefault := by
  induction acts using List.reverseRecOn with
  | nil => rfl
  | append_singleton acts act ih =>
    rw [getLast?_filterMap_concat, after, List.foldl_append]
    refine (perform_period _ act).trans ?_
    cases act.period? with
    | none => exact ih
    | some period => rfl

/-- The schedule of a poller with a standard period, `acts` having been done on its timeline. -/
structure Scheduled (period : Duration) (acts : List Act) : Prop where
  /-- The ticks that have been sent, in the order of their times. -/
  ticks : ∃ ticks : List (Instant × Nat),
    ((ofPeriod period).after acts).channel.queue = ticks.map (fun x => .tick x.2) ∧
    ticks.Pairwise (fun x y => x.1 < y.1) ∧
    ∀ time g, (time, g) ∈ ticks ↔ FallsDue (trace perform (ofPeriod period) acts) time g
  single : ∀ timer other, Live (trace perform (ofPeriod period) acts) timer →
    Live (trace perform (ofPeriod period) acts) other → timer = other
  running : ((ofPeriod period).after acts).poller.isRunning = true ↔
    ∃ timer, Live (trace perform (ofPeriod period) acts) timer
  standard : ((ofPeriod period).after acts).poller.period =
    ((acts.filterMap Act.period?).getLast?.getD period).orDefault
  /-- A timer is started with the timing that is asked for, unless a part of that is zero. -/
  timing : ∀ e ∈ trace perform (ofPeriod period) acts, ∀ asked,
    (e.1.turn e.2).timing? e.1.poller = some asked → ∃ timer, started? e = some timer ∧
      (asked.delay ≠ 0 ∧ asked.period ≠ 0 ∧
          timer.due = e.1.now + asked.delay ∧ timer.period = asked.period ∨
        (asked.delay = 0 ∨ asked.period = 0) ∧
          timer.due = e.1.now + Duration.millis 18000 ∧ timer.period = Duration.millis 18000)
  positive : ∀ e ∈ trace perform (ofPeriod period) acts, ∀ timer, started? e = some timer →
    timer.period ≠ 0 ∧ e.1.now < timer.due
  /-- A new standard period starts the timer that runs again, and starts no other. -/
  resumed : ∀ new : Duration,
    let t := (ofPeriod period).after acts
    let t' := t.perform (.setPeriod new)
    t'.poller.period = new.orDefault ∧ (if t.poller.isRunning then
      ∃ timer, started? (t, .setPeriod new) = some timer ∧ t'.poller.timer = some timer ∧
        timer.due = t.now + new.orDefault ∧ timer.period = new.orDefault
    else t'.poller.isRunning = false)

/-- A poller ticks at the first due time of each timer and after each period, as long as that timer
is neither stopped nor replaced, and never else. -/
theorem ticks_scheduled (period : Duration) (acts : List Act) : Scheduled period acts := by
  have hs := Standing.after period acts
  obtain ⟨ticks, hqueue, hsorted, -, hmem⟩ := hs.sent
  constructor
  case ticks => exact ⟨ticks, hqueue, hsorted, hmem⟩
  case single => exact fun timer other => hs.single
  case running => exact hs.running
  case standard => exact after_period period acts
  case timing =>
    rintro ⟨t, act⟩ he asked hasked
    have hclock : t.hasClock = true :=
      trace_invariant (P := fun t => t.hasClock = true) (fun t act h => perform_hasClock t act ▸ h)
        rfl _ he
    obtain ⟨timer, htimer⟩ := Option.isSome_iff_exists.mp (started_some hclock hasked)
    exact ⟨timer, htimer, started_fair hasked htimer⟩
  case positive => exact fun e _ timer htimer => (started_ahead htimer).2
  case resumed =>
    intro new t t'
    refine ⟨perform_period t (.setPeriod new), ?_⟩
    split
    · rename_i hr
      exact setPeriod_resumes hs.clock hr new
    · rename_i hr
      rw [Bool.not_eq_true] at hr
      change (t.poller.setPeriod t.clock new).isRunning = false
      rw [Poller.setPeriod_idle hr]
      exact hr

/-- The wait up to a due time is one of those that come to it. -/
example :
    ((ofPeriod 10).after
      [.startStandard, .wait 25, .setPeriod 4, .wait 8, .stop, .wait 90]).channel.queue =
      [.tick 2, .tick 2, .tick 4, .tick 4] := by decide

end Timeline

end Playback
