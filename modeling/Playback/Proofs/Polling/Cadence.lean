import Mathlib.Algebra.GroupWithZero.Nat
import Playback.Proofs.Rehearsal.Upkeep

/-! The pace at which avails are asked for while a session is left to itself. An answer with avails
starts the timer again, and any other answer lets it run on. Both come to the same next tick, so the
provider is asked at every multiple of the period after the start, whatever it answers. -/

namespace Playback

/-- A world like `w` whose provider of avails gives these answers, one after another. -/
def World.answering {σ : Type} (w : World σ) (answers : Nat → Except Error (List Avail)) :
    World (σ × Nat) where
  position s := w.position s.1
  manifest s := w.manifest s.1
  createFailure s := w.createFailure s.1
  avails s := (answers s.2).toOption.getD []
  after s c :=
    (w.after s.1 c, match c with
      | .fetch .. => s.2 + 1
      | _ => s.2)
  takes
    | .fetch .. | .event _ => true
    | c => w.takes c

/-- What is told of a poll: the fetch, and a single event if that brings avails. -/
def Polled (url : Url) (video : Video) (answer : Except Error (List Avail))
    (told : List Command) : Prop :=
  ∃ generation, match answer with
    | .ok (avail :: rest) => ∃ position, told = [.fetch url generation,
        .event ⟨video.id, .availsReceived, .avails (avail :: rest) position⟩]
    | _ => told = [.fetch url generation]

/-- The session polls for the avails of `video`, and the next tick is `due`. -/
structure Beating {σ : Type} (url : Url) (video : Video) (period : Duration) (due : Instant)
    (r : Rehearsal σ) : Prop where
  fetches : r.fetches = []
  tracking : r.session.tracking? = some url
  current : r.session.current? = some video
  positive : period ≠ 0
  standard : r.session.poller.period = period
  timer : r.session.poller.timer = some
    { generation := r.session.poller.generation, due := due, period := period }

namespace Beating

variable {σ : Type} {w : World σ} {answers : Nat → Except Error (List Avail)}
  {r : Rehearsal (σ × Nat)} {url : Url} {video : Video} {period : Duration} {due limit : Instant}

theorem nextDue? (h : Beating url video period due r) :
    r.session.poller.nextDue? = some due := by
  simp [Poller.nextDue?, h.timer]

theorem accepts (h : Beating url video period due r) :
    r.session.poller.accepts r.session.poller.generation = true := by
  simp [Poller.accepts, h.timer]

/-- The timer goes on, and its tick waits to be taken. -/
theorem waitUntil (h : Beating url video period due r) (hwaiting : r.waiting = []) :
    let r' := r.waitUntil due
    Beating url video period (due + period) r' ∧
      r'.waiting = [.tick r'.session.poller.generation] ∧ r'.now = due ∧ r'.world = r.world ∧
      r'.log = r.log := by
  have helapse : r.waitUntil due =
      { r with
        now := due
        session := { r.session with
          poller := { r.session.poller with
            timer := some ⟨r.session.poller.generation, due + period, period, false⟩ } }
        waiting := [.tick r.session.poller.generation] } := by
    simp [Rehearsal.waitUntil, Poller.elapse_heard h.timer, hwaiting, Timer.ticked,
      Timer.dueTimes, Timer.dueBy]
  rw [helapse]
  exact ⟨⟨h.fetches, h.tracking, h.current, h.positive, h.standard, rfl⟩, rfl, rfl, rfl, rfl⟩

/-- A tick has the avails fetched, and the session takes what the fetch brings. -/
theorem quiesce_tick (h : Beating url video period due r)
    (hwaiting : r.waiting = [.tick r.session.poller.generation]) :
    Task.quiesce (w.answering answers) r =
      (Rehearsal.handle (w.answering answers)
        [.fetched r.session.poller.generation ((answers r.world.2).toOption.getD [])]
        { r with
          waiting := []
          world := (w.answering answers).after r.world (.fetch url r.session.poller.generation)
          log := r.log ++ [.fetch url r.session.poller.generation] }).settle
        (w.answering answers) := by
  simp [Task.quiesce, Rehearsal.settle, Rehearsal.drain, Rehearsal.handle, Rehearsal.perform,
    Rehearsal.follow, Rehearsal.carry, Rehearsal.deliver, Rehearsal.note, Session.step,
    Session.handleHandoff, Session.issue, hwaiting, h.fetches, h.accepts, h.tracking,
    World.answering]

/-- Whatever a tick brings, the next one is a period later. -/
theorem tick (w : World σ) (answers : Nat → Except Error (List Avail))
    (h : Beating url video period (r.now + period) r)
    (hwaiting : r.waiting = [.tick r.session.poller.generation]) :
    let r' := Task.quiesce (w.answering answers) r
    Beating url video period (r.now + period) r' ∧ r'.world.2 = r.world.2 + 1 ∧
      ∃ told, r'.log = r.log ++ told ∧ Polled url video (answers r.world.2) told := by
  rw [h.quiesce_tick hwaiting]
  cases hanswer : (answers r.world.2).toOption.getD [] with
  | nil =>
    have hhandoff : ∀ a, r.session.handleHandoff a
        (.fetched r.session.poller.generation []) = r.session.issue [] := by
      simp [Session.handleHandoff]
    simp only [Rehearsal.handle, List.foldl_cons, List.foldl_nil, Rehearsal.perform, Session.step,
      hhandoff, Rehearsal.follow, Session.issue, Rehearsal.settle, h.fetches]
    refine ⟨⟨rfl, h.tracking, h.current, h.positive, h.standard, h.timer⟩, rfl, _, rfl,
      r.session.poller.generation, ?_⟩
    split
    · rename_i hok
      simp [hok, Except.toOption] at hanswer
    · rfl
  | cons avail rest =>
    have hpositive : r.session.poller.period ≠ 0 := h.standard ▸ h.positive
    have hstart := Poller.timer_startStandard hpositive r.now
    simp only [Rehearsal.handle, List.foldl_cons, List.foldl_nil, Rehearsal.perform, Session.step,
      Session.handleHandoff_accepted _ h.accepts (List.cons_ne_nil avail rest) h.current,
      Rehearsal.follow, Session.issue, Rehearsal.carry, Rehearsal.note, Rehearsal.settle, h.fetches,
      World.answering, ↓reduceIte]
    refine ⟨⟨rfl, h.tracking, h.current, h.positive, h.standard, ?_⟩, trivial, _,
      List.append_assoc .., r.session.poller.generation, ?_⟩
    · rw [← h.standard]
      exact hstart
    · cases hok : answers r.world.2 with
      | error e => simp [hok, Except.toOption] at hanswer
      | ok avails =>
        rw [hok] at hanswer
        obtain rfl : avails = avail :: rest := hanswer
        exact ⟨_, rfl⟩

end Beating

/-- What the rehearsal `r` has come to with `k` polls since `start`, if nothing else is done. -/
structure Cadent {σ : Type} (answers : Nat → Except Error (List Avail))
    (start : Rehearsal (σ × Nat)) (url : Url) (video : Video) (period : Duration) (k : Nat)
    (r : Rehearsal (σ × Nat)) : Prop where
  beating : Beating url video period (start.now + (k + 1) * period) r
  waiting : r.waiting = []
  reached : start.now + k * period ≤ r.now
  ahead : r.now < start.now + (k + 1) * period
  asked : r.world.2 = start.world.2 + k
  told : ∃ rounds : List (List Command), rounds.length = k ∧
    r.log = start.log ++ rounds.flatten ∧
    ∀ j told, rounds[j]? = some told → Polled url video (answers (start.world.2 + j)) told

namespace Cadent

variable {σ : Type} {w : World σ} {answers : Nat → Except Error (List Avail)}
  {start r : Rehearsal (σ × Nat)} {url : Url} {video : Video} {period : Duration} {k : Nat}
  {limit : Instant}

theorem first (h : Beating url video period (r.now + period) r) (hwaiting : r.waiting = []) :
    Cadent answers r url video period 0 r := by
  have hpositive := Nat.pos_of_ne_zero h.positive
  refine ⟨?_, hwaiting, ?_, ?_, rfl, [], rfl, by simp, nofun⟩
  · rw [Nat.zero_add, Nat.one_mul]
    exact h
  · rw [Nat.zero_mul]
    exact Nat.le_refl _
  · rw [Nat.zero_add, Nat.one_mul]
    exact Nat.lt_add_of_pos_right hpositive

theorem tick (h : Cadent answers start url video period k r) :
    Cadent answers start url video period (k + 1)
      (Task.quiesce (w.answering answers) (r.waitUntil (start.now + (k + 1) * period))) := by
  obtain ⟨hbeating, hwaiting, hnow, hworld, hlog⟩ := h.beating.waitUntil h.waiting
  obtain ⟨rounds, hlength, hrounds, hpolled⟩ := h.told
  have hpositive := Nat.pos_of_ne_zero h.beating.positive
  have hnext : start.now + (k + 1) * period + period = start.now + (k + 1 + 1) * period := by
    rw [Nat.succ_mul (k + 1), Nat.add_assoc]
  rw [← hnow] at hbeating
  obtain ⟨hbeating', hasked, told, htold, hnew⟩ := hbeating.tick w answers hwaiting
  obtain ⟨hidle, hnow'⟩ := Task.quiesce_idle (w.answering answers)
    (r.waitUntil (start.now + (k + 1) * period))
  rw [hworld, h.asked] at hasked hnew
  rw [hlog, hrounds] at htold
  rw [hnow, hnext] at hbeating'
  rw [hnow] at hnow'
  refine ⟨hbeating', hidle.waiting, Nat.le_of_eq hnow'.symm, ?_, hasked, rounds ++ [told], ?_, ?_,
    ?_⟩
  · rw [hnow', ← hnext]
    exact Nat.lt_add_of_pos_right hpositive
  · simp [hlength]
  · simp [htold]
  · intro j other hj
    rcases Nat.lt_trichotomy j rounds.length with hlt | rfl | hgt
    · rw [List.getElem?_append_left hlt] at hj
      exact hpolled j other hj
    · rw [List.getElem?_concat_length] at hj
      cases hj
      rw [hlength]
      exact hnew
    · rw [List.getElem?_eq_none (by rw [List.length_append]; exact hgt)] at hj
      cases hj

theorem last (h : Cadent answers start url video period k r) (hle : r.now ≤ limit)
    (hlimit : limit < start.now + (k + 1) * period) :
    Cadent answers start url video period k (r.waitUntil limit) := by
  rw [Rehearsal.waitUntil_quiet fun t ht => by
    rw [h.beating.timer] at ht
    cases ht
    exact hlimit]
  have hb := h.beating
  exact ⟨⟨hb.fetches, hb.tracking, hb.current, hb.positive, hb.standard, hb.timer⟩, h.waiting,
    Nat.le_trans h.reached hle, hlimit, h.asked, h.told⟩

theorem wait {t : Task (σ × Nat)} (haborted : t.isAborted = false)
    (h : Cadent answers start url video period k t.rehearsal) (d : Duration) :
    ∃ k, Cadent answers start url video period k (t.wait (w.answering answers) d).rehearsal := by
  rw [Task.wait_eq haborted]
  refine Task.waitRounds_invariant
    (P := fun r => ∃ k, Cadent answers start url video period k r) ?_ ?_ ?_ d ⟨k, h⟩
    (Nat.le_add_right _ _) (Nat.le_refl _)
  · rintro r due ⟨k, h⟩ hdue
    obtain rfl := Option.some.inj (h.beating.nextDue?.symm.trans hdue)
    exact h.ahead
  · rintro r due ⟨k, h⟩ hdue -
    obtain rfl := Option.some.inj (h.beating.nextDue?.symm.trans hdue)
    exact ⟨k + 1, h.tick⟩
  · rintro r ⟨k, h⟩ hle hlimit
    exact ⟨k, h.last hle (hlimit _ h.beating.nextDue?)⟩

end Cadent

namespace Session

variable {s : Session}

/-- A playlist that is there is never taken away. -/
theorem listed_undergo (h : s.playlist.isSome) (i : Incident) :
    (s.undergo i).session.playlist.isSome := by
  cases s.bearing i with
  | spares hs => exact hs.listed h
  | @opens op a config playlist ho =>
    obtain ⟨phase, engine, created, hload⟩ := s.tornDown.load_session a config playlist
    change (s.step a op).session.playlist.isSome
    rw [step_opens_session ho, hload]
    rfl
  | @switches target a e video hs =>
    obtain ⟨positions, hr⟩ := s.record_eq a.position
    change (s.switchBackend a target).session.playlist.isSome
    cases hf : a.createFailure with
    | none =>
      rw [switchBackend_created hs hf, hr]
      exact h
    | some err =>
      rw [switchBackend_failed hs hf, hr]
      exact h
  | @release a =>
    change s.release.session.playlist.isSome
    rw [release_eq]
    exact h
  | @exitPip a =>
    change s.exitPip.session.playlist.isSome
    rw [exitPip_eq]
    split <;> exact h

/-- A timer that is there was there before, or has been started for the current video. -/
theorem Paced.listed_undergo (h : Paced s) (hs : Coherent s)
    (hlisted : s.poller.timer.isSome → s.playlist.isSome) (i : Incident)
    (ht : (s.undergo i).session.poller.timer.isSome) : (s.undergo i).session.playlist.isSome := by
  refine Session.listed_undergo ?_ i
  cases s.beat i with
  | keeps steady poller => exact hlisted (poller ▸ ht)
  | @waits limit steady poller =>
    rw [poller, (s.poller.elapse_kept limit true).2.1] at ht
    exact hlisted ht
  | @configures config a valid session =>
    obtain ⟨-, -, htimer⟩ := h.regular.setPeriod a.now config.period
    rw [session, htimer] at ht
    exact hlisted ht
  | rests config playStarted poller => simp [poller, Poller.stop] at ht
  | plays p rested active => exact hs.listed (isActive_iff.mp active).1
  | polls steady timer => exact hlisted timer

theorem timer_listed (id : String) (run : List Incident)
    (ht : ((fresh id).after run).poller.timer.isSome) :
    ((fresh id).after run).playlist.isSome := by
  induction run using List.reverseRecOn with
  | nil => cases ht
  | append_singleton run i ih =>
    rw [after_concat] at ht ⊢
    exact (paced_after id run).listed_undergo (coherent_after id run) ih i ht

/-- Polling has been started on the way from `s` to `s'`. -/
def startsPolling (s s' : Session) : Bool :=
  s'.isPolling && decide (s.poller.generation < s'.poller.generation)

/-- The timer that an operation starts ticks first after the configured period. -/
theorem timer_of_startsPolling (id : String) (run : List Incident) {op : Operation} {a : Answers}
    (h : startsPolling ((fresh id).after run)
      ((fresh id).after (run ++ [.operation op a])) = true) :
    let s := (fresh id).after (run ++ [.operation op a])
    ∃ config, s.config = some config ∧ s.poller.period = config.period ∧ config.period ≠ 0 ∧
      s.tracking?.isSome ∧ s.current?.isSome ∧ s.poller.timer = some
        { generation := s.poller.generation, due := a.now + config.period
          period := config.period } := by
  intro s
  obtain ⟨hpolling, hlt⟩ := Bool.and_eq_true_iff.mp h
  have hpaced := paced_after id (run ++ [.operation op a])
  have hregular := hpaced.regular
  rw [isPolling, hregular.unended.isRunning] at hpolling
  obtain ⟨config, hconfig⟩ := Option.isSome_iff_exists.mp (hpaced.configured hpolling)
  have hperiod := hpaced.period config hconfig
  obtain ⟨t, ht⟩ := Option.isSome_iff_exists.mp hpolling
  have hcurrent : s.current?.isSome := by
    rw [current?, Option.isSome_map]
    exact timer_listed id _ hpolling
  refine ⟨config, hconfig, hperiod, hperiod ▸ hregular.positive, (hpaced.running.mp hpolling).2,
    hcurrent, ?_⟩
  have hgeneration := hregular.generation t ht
  have htperiod := (hregular.period t ht).trans hperiod
  have hover := hregular.unended t ht
  have hdue : t.due = a.now + config.period := by
    have ht' := ht
    rw [after_concat] at ht'
    rcases timer_origin (paced_after id run) _ ht' with hb | ⟨t', k, hold, rfl⟩
    · obtain ⟨_, _, hi, -, -, hdue⟩ := hb
      cases hi
      rw [hdue, htperiod]
    · -- A timer that has only ticked still has the generation from before.
      have hsame : t'.generation = _ := (paced_after id run).regular.generation t' hold
      refine absurd (of_decide_eq_true hlt) (Nat.not_lt_of_le (Nat.le_of_eq ?_))
      exact hgeneration.symm.trans hsame
  rw [ht]
  obtain ⟨generation, due, period, isOver⟩ := t
  cases hgeneration
  cases htperiod
  cases hover
  cases hdue
  rfl

/-- Only messages of the background have avails fetched. -/
theorem fetch?_own {op : Operation} (own : ∀ m, op ≠ .handoff m) (s : Session) (a : Answers) :
    (s.step a op).commands.filterMap Command.fetch? = [] := by
  refine List.filterMap_eq_nil_iff.mpr fun c hc => ?_
  cases c with
  | fetch url g =>
    rcases tracking_of_mem (i := .operation op a) hc rfl with ⟨signal, _, hi⟩ | ⟨m, _, hi⟩
    · cases hi
      obtain ⟨video, e, -, -, he, -⟩ := mem_handleSignal hc rfl
      cases he
    · cases hi
      exact absurd rfl (own m)
  | _ => rfl

end Session

/-- How the task `t` has come on with polling since `start`, a time `d` ago. -/
structure KeepsCadence {σ : Type} (answers : Nat → Except Error (List Avail))
    (start t : Task (σ × Nat)) (d : Duration) : Prop where
  now : t.rehearsal.now = start.rehearsal.now + d
  polling : t.rehearsal.session.isPolling = true
  /-- One poll at the end of each period, with its own answer, and the next one at the end of the
  present period. -/
  polled : ∃ config url video, start.rehearsal.session.config = some config ∧
    t.rehearsal.session.tracking? = some url ∧ t.rehearsal.session.current? = some video ∧
    t.rehearsal.session.poller.nextDue? =
      some (start.rehearsal.now + (d / config.period + 1) * config.period) ∧
    ∃ rounds : List (List Command), rounds.length = d / config.period ∧
      t.rehearsal.log = start.rehearsal.log ++ rounds.flatten ∧
      ∀ k told, rounds[k]? = some told →
        Polled url video (answers (start.rehearsal.world.2 + k)) told

namespace Task

variable {σ : Type} {w : World σ} {answers : Nat → Except Error (List Avail)} {id : String}

theorem Reached.cadent {t : Task (σ × Nat)} (ht : Reached (w.answering answers) id t)
    {op : Operation} (own : ∀ m, op ≠ .handoff m)
    (hstart : Session.startsPolling t.rehearsal.session
      (t.call (w.answering answers) op).1.rehearsal.session = true) :
    let t₀ := (t.call (w.answering answers) op).1
    ∃ config url video, t₀.rehearsal.session.config = some config ∧
      Cadent answers t₀.rehearsal url video config.period 0 t₀.rehearsal := by
  intro t₀
  obtain ⟨haborted, hidle, htidy⟩ := ht.tidy
  obtain ⟨run, hrun⟩ := htidy.run
  let o := t.rehearsal.session.step
    ((w.answering answers).answers t.rehearsal.now t.rehearsal.world) op
  obtain ⟨hsession, hwaiting, hnow, hfetches⟩ :=
    t.rehearsal.follow_kept (w := w.answering answers) o
  rw [Session.fetch?_own own, hidle.fetches] at hfetches
  rw [hidle.waiting] at hwaiting
  -- The call itself leaves nothing in the background for the task to take.
  have ht₀ : t₀.rehearsal = t.rehearsal.follow (w.answering answers) o := by
    have hcall : t₀ = _ := call_eq haborted op
    rw [hcall]
    exact quiesce_of_idle ⟨hwaiting, hfetches⟩
  have hafter : t₀.rehearsal.session = (Session.fresh id).after (run ++ [.operation op
      ((w.answering answers).answers t.rehearsal.now t.rehearsal.world)]) := by
    rw [ht₀, hsession, Session.after_concat, ← hrun]
    rfl
  change Session.startsPolling _ t₀.rehearsal.session = true at hstart
  rw [hafter, hrun] at hstart
  obtain ⟨config, hconfig, hperiod, hpositive, htracking, hcurrent, htimer⟩ :=
    Session.timer_of_startsPolling id run hstart
  rw [← hafter] at hconfig hperiod htracking hcurrent htimer
  obtain ⟨url, hurl⟩ := Option.isSome_iff_exists.mp htracking
  obtain ⟨video, hvideo⟩ := Option.isSome_iff_exists.mp hcurrent
  have hnow₀ : t₀.rehearsal.now = t.rehearsal.now := by rw [ht₀, hnow]
  refine ⟨config, url, video, hconfig, .first ⟨?_, hurl, hvideo, hpositive, hperiod, ?_⟩ ?_⟩
  · rw [ht₀, hfetches]
    rfl
  · rw [hnow₀]
    exact htimer
  · rw [ht₀, hwaiting]

theorem cadent_waits {start t : Task (σ × Nat)} {url : Url} {video : Video} {period : Duration}
    {k : Nat} (waits : List Duration) (haborted : t.isAborted = false)
    (h : Cadent answers start.rehearsal url video period k t.rehearsal) :
    let t' := waits.foldl (fun t d => t.wait (w.answering answers) d) t
    t'.rehearsal.now = t.rehearsal.now + waits.sum ∧
      ∃ k, Cadent answers start.rehearsal url video period k t'.rehearsal := by
  induction waits generalizing t k with
  | nil => exact ⟨rfl, k, h⟩
  | cons d rest ih =>
    obtain ⟨k', h'⟩ := h.wait (w := w) haborted d
    have hwait := wait_eq (w := w.answering answers) haborted d
    obtain ⟨hnow, hk⟩ := ih (t := t.wait (w.answering answers) d) (by rw [hwait]; exact haborted) h'
    refine ⟨?_, hk⟩
    rw [List.foldl_cons, hnow, hwait, List.sum_cons, ← Nat.add_assoc, waitRounds_now]

/-- Once polling has been started, and nothing else is done, the provider is asked at the end of
each period, whatever it has answered before. -/
theorem polling_cadence {t : Task (σ × Nat)} (ht : Reached (w.answering answers) id t)
    {op : Operation} (own : ∀ m, op ≠ .handoff m)
    (hstart : Session.startsPolling t.rehearsal.session
      (t.call (w.answering answers) op).1.rehearsal.session = true) (waits : List Duration) :
    KeepsCadence answers (t.call (w.answering answers) op).1
      (waits.foldl (fun t d => t.wait (w.answering answers) d)
        (t.call (w.answering answers) op).1) waits.sum := by
  obtain ⟨config, url, video, hconfig, hcadent⟩ := ht.cadent own hstart
  have haborted : (t.call (w.answering answers) op).1.isAborted = false := (ht.call own).tidy.1
  generalize (t.call (w.answering answers) op).1 = t₀ at *
  obtain ⟨hnow, k, h⟩ := cadent_waits (w := w) waits haborted hcadent
  -- The number of polls is that of the whole periods so far.
  have hk : waits.sum / config.period = k := by
    have hreached := h.reached
    have hahead := h.ahead
    rw [hnow] at hreached hahead
    exact Nat.div_eq_of_lt_le (Nat.le_of_add_le_add_left hreached)
      (Nat.lt_of_add_lt_add_left hahead)
  obtain ⟨rounds, hlength, hlog, hpolled⟩ := h.told
  refine ⟨hnow, ?_, config, url, video, hconfig, h.beating.tracking, h.beating.current, ?_, rounds,
    hlength.trans hk.symm, hlog, hpolled⟩
  · simp [Session.isPolling, Poller.isRunning, h.beating.timer]
  · rw [hk]
    exact h.beating.nextDue?

/-- A provider that fails, then has nothing, and then has avails each time. -/
def reluctant (n : Nat) : Except Error (List Avail) :=
  if n = 0 then .error .closed else if n = 1 then .ok [] else .ok [⟨"spot", 0, 0, []⟩]

/-- A live stream that has not started yet. -/
def loaded : Task (Script × Nat) :=
  let w := (World.scripted true true).answering reluctant
  let found : AdSession := { tracking := some ⟨"avails"⟩, id := "m" }
  let t := spawn (.fresh "s") ({ manifests := [some found] }, 0)
  ((t.call w (.configure {})).1.call w
    (.init [{ id := "a", isLive := true, wantsAds := true }])).1

/-- A stream that starts is polled for three times in a minute, with a period of 18 seconds. -/
theorem polling_cadence_minute :
    let w := (World.scripted true true).answering reluctant
    let start := (loaded.call w (.signal (.engine (.playStarted 0)))).1
    let t := [Duration.millis 20000, Duration.millis 40000].foldl (fun t d => t.wait w d) start
    Reached w "s" loaded ∧
      Session.startsPolling loaded.rehearsal.session start.rehearsal.session = true ∧
      KeepsCadence reluctant start t (Duration.millis 60000) ∧
      (t.rehearsal.log.filterMap Command.fetch?).length = 3 := by
  intro w start t
  have hreached : Reached w "s" loaded := ((Reached.spawn _).call (by simp)).call (by simp)
  have hstart : Session.startsPolling loaded.rehearsal.session start.rehearsal.session = true := by
    decide +kernel
  refine ⟨hreached, hstart, polling_cadence hreached (by simp) hstart _, ?_⟩
  decide +kernel

end Task

end Playback
