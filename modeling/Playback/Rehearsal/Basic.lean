import Playback.Rehearsal.World

/-! A session played against a world, on a clock that moves only when it is told to. Messages from
the background wait in a queue until the session takes them; a fetch brings its message after the
operation that started it. -/

namespace Playback

structure Rehearsal (σ : Type) where
  session : Session := {}
  world : σ
  now : Instant := 0
  /-- Messages from the background, the oldest first. -/
  waiting : List Handoff := []
  /-- Fetches that have been started. -/
  fetches : List (Url × Nat) := []
  /-- What the world was told, in order. -/
  log : List Command := []

namespace Rehearsal

variable {σ : Type}

/-- Tells the world one command. -/
def note (w : World σ) (r : Rehearsal σ) (c : Command) : Rehearsal σ :=
  { r with
    world := w.after r.world c
    log := if w.takes c then r.log ++ [c] else r.log }

/-- Passes a command on: a fetch is started, and anything else is told at once. -/
def carry (w : World σ) (r : Rehearsal σ) : Command → Rehearsal σ
  | .fetch url generation => { r with fetches := r.fetches ++ [(url, generation)] }
  | c => r.note w c

/-- What comes of an outcome: the commands reach the world in order. -/
def follow (w : World σ) (r : Rehearsal σ) (o : Outcome) : Rehearsal σ :=
  o.commands.foldl (carry w) { r with session := o.session }

/-- Does an operation. -/
def perform (w : World σ) (op : Operation) (r : Rehearsal σ) : Rehearsal σ × Option Error :=
  let o := r.session.step (w.answers r.now r.world) op
  (r.follow w o, o.error)

/-- Finishes one fetch. -/
def deliver (w : World σ) (r : Rehearsal σ) (fetch : Url × Nat) : Rehearsal σ :=
  { r.note w (.fetch fetch.1 fetch.2) with
    waiting := r.waiting ++ [.fetched fetch.2 (w.avails r.world)] }

/-- Finishes the fetches that have been started, in order. -/
def settle (w : World σ) (r : Rehearsal σ) : Rehearsal σ :=
  r.fetches.foldl (deliver w) { r with fetches := [] }

/-- Does an operation and finishes the fetches that it started. -/
def call (w : World σ) (op : Operation) (r : Rehearsal σ) : Rehearsal σ × Option Error :=
  let (r, e) := r.perform w op
  (r.settle w, e)

/-- Has the session handle these messages, in order. -/
def handle (w : World σ) (messages : List Handoff) (r : Rehearsal σ) : Rehearsal σ :=
  messages.foldl (fun r h => (r.perform w (.handoff h)).1) r

/-- Has the session handle every message that waits. -/
def drain (w : World σ) (r : Rehearsal σ) : Rehearsal σ :=
  (handle w r.waiting { r with waiting := [] }).settle w

/-- The oldest message, taken out of the queue. -/
def take (r : Rehearsal σ) : Option Handoff × Rehearsal σ :=
  (r.waiting.head?, { r with waiting := r.waiting.tail })

/-- Lets time pass until `limit`; the ticks on the way wait. -/
def waitUntil (limit : Instant) (r : Rehearsal σ) : Rehearsal σ :=
  let (poller, ticks) := r.session.poller.elapse limit true
  { r with
    now := limit
    session := { r.session with poller }
    waiting := r.waiting ++ ticks }

def wait (d : Duration) (r : Rehearsal σ) : Rehearsal σ := r.waitUntil (r.now + d)

/-- Ends the session. -/
def drop (w : World σ) (r : Rehearsal σ) : Rehearsal σ := r.follow w r.session.drop

/-- The log so far, and the rehearsal with an empty one. -/
def takeLog (r : Rehearsal σ) : List Command × Rehearsal σ := (r.log, { r with log := [] })

end Rehearsal

end Playback
