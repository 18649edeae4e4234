/-! Lengths of time and points in time, both in whole nanoseconds. -/

namespace Playback

/-- A length of time in nanoseconds. -/
abbrev Duration := Nat

/-- A point in time, in nanoseconds from the start of the clock. -/
abbrev Instant := Nat

/-- `n` milliseconds. -/
def Duration.millis (n : Nat) : Duration := n * 1000000

/-- The whole milliseconds of a length of time. -/
def Duration.toMillis (d : Duration) : Nat := d / 1000000

/-- The time between polls for avails where nothing else is asked for: 18 seconds. -/
def defaultPollPeriod : Duration := Duration.millis 18000

/-- When something recurrent happens: after `delay`, and then again after each `period`. -/
structure Timing where
  delay : Duration
  period : Duration
  deriving DecidableEq, Repr

/-- A timing that makes sense: a zero in either place stands for the default in both. -/
def Timing.normalized (t : Timing) : Timing :=
  if t.delay = 0 ∨ t.period = 0 then ⟨defaultPollPeriod, defaultPollPeriod⟩ else t

/-- The same length of time before the first and between later ones. -/
def Timing.every (period : Duration) : Timing := ⟨period, period⟩

/-- A period that makes sense: zero stands for the default. -/
def Duration.orDefault (d : Duration) : Duration := if d = 0 then defaultPollPeriod else d

end Playback
