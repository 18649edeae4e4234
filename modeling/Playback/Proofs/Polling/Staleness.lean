import Playback.Proofs.Polling.Pace

/-! Which messages a poller accepts. A timer that starts has a generation of its own, above those of
all earlier ones, and whatever stops or replaces it raises the generation further. So a message is
accepted exactly as long as the timer that it comes from has been neither stopped nor replaced,
whatever else happens, and whether there is a clock for another timer or not. -/

namespace Playback

/-- What is done to a poller. A start finds a clock or none. -/
inductive Turn where
  | start (clock : Option Instant) (timing : Timing)
  | startStandard (clock : Option Instant)
  | setPeriod (clock : Option Instant) (period : Duration)
  | stop
  /-- Time passes until `limit`, with somebody there to hear the ticks or not. -/
  | elapse (limit : Instant) (heard : Bool)
  deriving DecidableEq, Repr

def Handoff.generation : Handoff → Nat
  | .tick generation | .fetched generation _ => generation

namespace Poller

def undergo (p : Poller) : Turn → Poller
  | .start clock timing => p.start clock timing
  | .startStandard clock => p.startStandard clock
  | .setPeriod clock period => p.setPeriod clock period
  | .stop => p.stop
  | .elapse limit heard => (p.elapse limit heard).1

def after (p : Poller) (turns : List Turn) : Poller := turns.foldl undergo p

end Poller

namespace Turn

/-- The timing that a timer of `p` is started with, if one is started. -/
def timing? (p : Poller) : Turn → Option Timing
  | .start _ timing => some timing
  | .startStandard _ => some (.every p.period)
  | .setPeriod _ period => if p.isRunning then some (.every period.orDefault) else none
  | .stop | .elapse .. => none

def clock? : Turn → Option Instant
  | .start clock _ | .startStandard clock | .setPeriod clock _ => clock
  | .stop | .elapse .. => none

/-- The timer that is started, if there is a clock for it. -/
def timer? (p : Poller) (turn : Turn) : Option Timer :=
  match turn.timing? p, turn.clock? with
  | some timing, some now =>
    some
      { generation := (p.undergo turn).generation
        due := now + timing.normalized.delay
        period := timing.normalized.period }
  | _, _ => none

/-- The timer of `p` is stopped, or replaced where that can be done. -/
def replaces (p : Poller) : Turn → Bool
  | .start .. | .startStandard _ | .stop => true
  | .setPeriod .. => p.isRunning
  | .elapse .. => false

end Turn

/-- The timer that an entry of a trace starts. -/
def Poller.started? (e : Poller × Turn) : Option Timer := e.2.timer? e.1

namespace Poller

variable {p : Poller} {turn : Turn}

theorem start_generation (p : Poller) (clock : Option Instant) (timing : Timing) :
    p.generation < (p.start clock timing).generation := by
  cases clock with
  | none => exact p.generation_stop
  | some now =>
    simp only [start, stop]
    omega

theorem start_timer (p : Poller) (clock : Option Instant) (timing : Timing) :
    (p.start clock timing).timer = clock.map fun now =>
      { generation := (p.start clock timing).generation
        due := now + timing.normalized.delay
        period := timing.normalized.period } := by
  cases clock <;> rfl

theorem elapse_kept (p : Poller) (limit : Instant) (heard : Bool) :
    (p.elapse limit heard).1.generation = p.generation ∧
      (p.elapse limit heard).1.timer.isSome = p.timer.isSome ∧
      (p.elapse limit heard).1.period = p.period := by
  unfold elapse
  cases ht : p.timer with
  | none => simp [ht]
  | some t =>
    dsimp only
    split
    · simp [ht]
    · cases heard <;> simp

theorem setPeriod_idle (h : p.isRunning = false) (clock : Option Instant) (period : Duration) :
    p.setPeriod clock period = { p with period := period.orDefault } := by
  have hr : isRunning { p with period := period.orDefault } = false := h
  simp [setPeriod, hr]

theorem setPeriod_running (h : p.isRunning = true) (clock : Option Instant) (period : Duration) :
    p.setPeriod clock period =
      { p with period := period.orDefault }.start clock (.every period.orDefault) := by
  have hr : isRunning { p with period := period.orDefault } = true := h
  simp only [setPeriod, hr, ↓reduceIte]
  rfl

/-- What replaces no timer starts none, and the one that is there stays. -/
theorem undergo_keeps (h : turn.replaces p = false) :
    turn.timer? p = none ∧ (p.undergo turn).generation = p.generation ∧
      (p.undergo turn).timer.isSome = p.timer.isSome := by
  cases turn with
  | start | startStandard | stop => cases h
  | setPeriod clock period =>
    have hr : p.isRunning = false := h
    refine ⟨by simp [Turn.timer?, Turn.timing?, hr], ?_⟩
    simp only [undergo, setPeriod_idle hr, and_self]
  | elapse limit heard =>
    obtain ⟨hg, ht, -⟩ := p.elapse_kept limit heard
    exact ⟨rfl, hg, ht⟩

/-- What replaces a timer raises the generation, and only the timer that it starts is there then. -/
theorem undergo_replaces (h : turn.replaces p = true) :
    p.generation < (p.undergo turn).generation ∧ (p.undergo turn).timer = turn.timer? p := by
  cases turn with
  | start clock timing =>
    refine ⟨p.start_generation clock timing, (p.start_timer clock timing).trans ?_⟩
    cases clock <;> rfl
  | startStandard clock =>
    refine ⟨p.start_generation clock _, (p.start_timer clock _).trans ?_⟩
    cases clock <;> rfl
  | setPeriod clock period =>
    have hr : p.isRunning = true := h
    simp only [Turn.timer?, Turn.timing?, Turn.clock?, hr, ↓reduceIte, undergo,
      setPeriod_running hr]
    refine ⟨start_generation { p with period := period.orDefault } clock _,
      (start_timer _ clock _).trans ?_⟩
    cases clock <;> rfl
  | stop => exact ⟨p.generation_stop, rfl⟩
  | elapse => cases h

/-- A timer that is started has the generation that the poller has then. -/
theorem undergo_starts {timer : Timer} (h : turn.timer? p = some timer) :
    turn.replaces p = true ∧ timer.generation = (p.undergo turn).generation ∧
      (p.undergo turn).timer = some timer := by
  cases hr : turn.replaces p with
  | false =>
    rw [(undergo_keeps hr).1] at h
    cases h
  | true =>
    refine ⟨rfl, ?_, (undergo_replaces hr).2.trans h⟩
    unfold Turn.timer? at h
    split at h
    · cases h
      rfl
    · cases h

end Poller

end Playback
