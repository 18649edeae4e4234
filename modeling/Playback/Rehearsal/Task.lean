import Playback.Rehearsal.Basic

/-! A session that runs by itself: it handles the messages from the background as they come, and
its clients only make calls. -/

namespace Playback

structure Task (σ : Type) where
  rehearsal : Rehearsal σ
  /-- The task has been ended from outside. -/
  isAborted : Bool := false

namespace Task

variable {σ : Type}

/-- Starts a task for a session. -/
def spawn (session : Session) (world : σ) : Task σ := { rehearsal := { session, world } }

/-- Handles what waits. A tick may start a fetch, and what that brings starts nothing, so a second
round leaves nothing behind. -/
def quiesce (w : World σ) (r : Rehearsal σ) : Rehearsal σ := ((r.settle w).drain w).drain w

/-- Makes a call; one to a task that has ended is refused. -/
def call (w : World σ) (op : Operation) (t : Task σ) : Task σ × Option Error :=
  if t.isAborted then (t, some .closed)
  else
    let (r, e) := t.rehearsal.perform w op
    ({ t with rehearsal := quiesce w r }, e)

/-- Reads a position, unless the task has ended. -/
def read (t : Task σ) (id : String) : Except Error Int64 :=
  if t.isAborted then .error .closed else .ok (t.rehearsal.session.readPosition id)

/-- Lets time pass until `limit`, with every tick handled at its own time. Each tick moves the clock
on, so `limit - now` rounds are enough. -/
def waitRounds (w : World σ) (limit : Instant) : Nat → Rehearsal σ → Rehearsal σ
  | 0, r => r.waitUntil limit
  | n + 1, r =>
    match r.session.poller.nextDue? with
    | some due =>
      if due ≤ limit then waitRounds w limit n (quiesce w (r.waitUntil due))
      else r.waitUntil limit
    | none => r.waitUntil limit

def wait (w : World σ) (d : Duration) (t : Task σ) : Task σ :=
  let limit := t.rehearsal.now + d
  if t.isAborted then { t with rehearsal := { t.rehearsal with now := limit } }
  else { t with rehearsal := waitRounds w limit d t.rehearsal }

/-- Ends the task from outside; its session ends with it. -/
def abort (w : World σ) (t : Task σ) : Task σ :=
  if t.isAborted then t else { rehearsal := t.rehearsal.drop w, isAborted := true }

/-- Lets the task end by itself, as it does when it has no clients left: the session is released and
ends. -/
def finish (w : World σ) (t : Task σ) : Task σ :=
  if t.isAborted then t
  else { t with rehearsal := ((t.rehearsal.perform w .release).1).drop w }

end Task

end Playback
