import Playback.Tracking.Event

/-! Records: events with what is needed to deliver them. An emitter numbers the events of a session
from 1, whether or not anyone receives them. -/

namespace Playback

/-- What makes a record unlike any other, and when it was made. -/
structure Stamp where
  id : String
  timestamp : String
  deriving DecidableEq, Repr

structure Record where
  id : String
  sessionId : String
  timestamp : String
  sequence : Nat
  event : Event
  deriving DecidableEq, Repr

structure Emitter where
  sessionId : String
  /-- The number of events so far. -/
  sequence : Nat := 0
  /-- The records that have not been received, the oldest first. -/
  queue : List Record := []
  /-- There is someone to receive records. -/
  isOpen : Bool := true
  deriving DecidableEq, Repr

namespace Emitter

/-- Takes an event; its record is lost when there is nobody to receive it. -/
def emit (m : Emitter) (stamp : Stamp) (event : Event) : Emitter :=
  let record : Record :=
    { id := stamp.id
      sessionId := m.sessionId
      timestamp := stamp.timestamp
      sequence := m.sequence + 1
      event }
  { m with
    sequence := m.sequence + 1
    queue := if m.isOpen then m.queue ++ [record] else m.queue }

/-- The oldest record, taken out of the queue. -/
def receive (m : Emitter) : Option Record × Emitter :=
  (m.queue.head?, { m with queue := m.queue.tail })

/-- The receiver goes away, and with it what has not been received. -/
def close (m : Emitter) : Emitter := { m with queue := [], isOpen := false }

end Emitter

end Playback
