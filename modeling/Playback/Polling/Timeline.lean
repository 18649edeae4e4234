import Playback.Error
import Playback.Polling.Poller

/-! A poller on a clock of its own, with the channel that its messages go through. The clock moves
only when it is told to wait, and every tick on the way is sent at its own time. -/

namespace Playback

/-- A channel of messages, the oldest first. -/
structure Channel where
  queue : List Handoff := []
  isOpen : Bool := true
  deriving Repr

namespace Channel

/-- A message to a channel that is closed is lost. -/
def send (c : Channel) (messages : List Handoff) : Channel :=
  if c.isOpen then { c with queue := c.queue ++ messages } else c

/-- Closes the channel; what it holds is lost. -/
def close (_ : Channel) : Channel := { queue := [], isOpen := false }

end Channel

structure Timeline where
  /-- There is something to run timers with. -/
  hasClock : Bool := true
  now : Instant := 0
  channel : Channel := {}
  poller : Poller
  deriving Repr

namespace Timeline

def clock (t : Timeline) : Option Instant := if t.hasClock then some t.now else none

def start (t : Timeline) (timing : Timing) : Timeline :=
  { t with poller := t.poller.start t.clock timing }

def startStandard (t : Timeline) : Timeline := { t with poller := t.poller.startStandard t.clock }

def setPeriod (t : Timeline) (period : Duration) : Timeline :=
  { t with poller := t.poller.setPeriod t.clock period }

def stop (t : Timeline) : Timeline := { t with poller := t.poller.stop }

/-- Lets time pass. -/
def wait (t : Timeline) (d : Duration) : Timeline :=
  let (poller, ticks) := t.poller.elapse (t.now + d) t.channel.isOpen
  { t with now := t.now + d, poller, channel := t.channel.send ticks }

/-- Fetches avails on behalf of a generation; a fetch that fails brings none. -/
def fetch (t : Timeline) (generation : Nat) (answer : Except Error (List Avail)) : Timeline :=
  { t with channel := t.channel.send [.fetched generation (answer.toOption.getD [])] }

/-- Takes everything out of the channel, each message with whether it is accepted now. -/
def receive (t : Timeline) : List (Handoff × Bool) × Timeline :=
  let accepted := fun (m : Handoff) => match m with
    | .tick g => t.poller.accepts g
    | .fetched g _ => t.poller.accepts g
  (t.channel.queue.map fun m => (m, accepted m), { t with channel.queue := [] })

def close (t : Timeline) : Timeline := { t with channel := t.channel.close }

/-- Puts a new poller in place of the present one, on the same channel. -/
def replace (t : Timeline) (period : Duration) : Timeline :=
  { t with poller := Poller.ofPeriod period }

end Timeline

end Playback
