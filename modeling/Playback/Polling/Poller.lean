import Playback.Advertising
import Playback.Duration

/-! Polling for avails: a timer that ticks with a period, and the numbers by which a message of an
earlier timer is told from one of the timer that runs. Each start and each stop takes a new number,
the generation, so nothing of a timer that was stopped or replaced is accepted any more. -/

namespace Playback

/-- A message from the background to a session. -/
inductive Handoff where
  /-- The timer of a generation has ticked. -/
  | tick (generation : Nat)
  /-- What was fetched on behalf of a tick. -/
  | fetched (generation : Nat) (avails : List Avail)
  deriving DecidableEq, Repr

/-- A timer that ticks at `due` and then after each `period`. -/
structure Timer where
  generation : Nat
  due : Instant
  period : Duration
  /-- The timer has ended, since nobody was there to receive a tick. -/
  isOver : Bool := false
  deriving DecidableEq, Repr

namespace Timer

/-- How many ticks fall due up to `limit`, the limit included. -/
def dueBy (t : Timer) (limit : Instant) : Nat :=
  if t.isOver ∨ limit < t.due then 0 else (limit - t.due) / t.period + 1

/-- The times of the ticks that fall due up to `limit`. -/
def dueTimes (t : Timer) (limit : Instant) : List Instant :=
  (List.range (t.dueBy limit)).map fun k => t.due + k * t.period

end Timer

structure Poller where
  /-- The period where nothing else is asked for. -/
  period : Duration := defaultPollPeriod
  generation : Nat := 0
  timer : Option Timer := none
  deriving DecidableEq, Repr, Inhabited

namespace Poller

/-- A poller with this standard period, which is the default one instead of zero. -/
def ofPeriod (period : Duration) : Poller := { period := period.orDefault }

/-- Ends the timer. The generation changes even when there is none. -/
def stop (p : Poller) : Poller := { p with timer := none, generation := p.generation + 1 }

/-- Starts a timer in place of any other; without a clock there is no timer. -/
def start (p : Poller) (clock : Option Instant) (timing : Timing) : Poller :=
  match clock with
  | none => p.stop
  | some now =>
    let generation := p.stop.generation + 1
    { p.stop with
      generation
      timer := some
        { generation
          due := now + timing.normalized.delay
          period := timing.normalized.period } }

/-- Starts a timer with the standard period, which is also the time to its first tick. -/
def startStandard (p : Poller) (clock : Option Instant) : Poller :=
  p.start clock (.every p.period)

def isRunning (p : Poller) : Bool :=
  match p.timer with
  | some t => !t.isOver
  | none => false

/-- Changes the standard period. A timer that runs is started again with it. -/
def setPeriod (p : Poller) (clock : Option Instant) (period : Duration) : Poller :=
  let p := { p with period := period.orDefault }
  if p.isRunning then p.startStandard clock else p

/-- A message of this generation comes from the present timer. -/
def accepts (p : Poller) (generation : Nat) : Bool :=
  p.timer.isSome && generation = p.generation

/-- The poller at the time `limit`, and the ticks up to then. When nobody listens, the timer ends
with its first tick. -/
def elapse (p : Poller) (limit : Instant) (heard : Bool) : Poller × List Handoff :=
  match p.timer with
  | none => (p, [])
  | some t =>
    let n := t.dueBy limit
    if n = 0 then (p, [])
    else if heard then
      ({ p with timer := some { t with due := t.due + n * t.period } },
        List.replicate n (.tick t.generation))
    else ({ p with timer := some { t with isOver := true } }, [])

/-- The time of the next tick. -/
def nextDue? (p : Poller) : Option Instant :=
  match p.timer with
  | some t => if t.isOver then none else some t.due
  | none => none

end Poller

end Playback
