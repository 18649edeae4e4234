import Playback.Rehearsal.World
import Playback.Simulation.Scenario

/-! Engines that play nothing. They share one position, which moves only when a video is loaded and
on a seek. -/

namespace Playback

/-- Where stub engines are after a command. -/
def EngineCommand.moveStub (c : EngineCommand) (position : Int64) : Int64 :=
  match c with
  | .load _ start => if start < 0 then 0 else start
  | .seek target => target
  | _ => position

/-- Stub engines: how many there are, and where they are. -/
structure Stubs where
  count : Nat := 0
  position : Int64 := 0
  deriving DecidableEq, Repr

namespace Stubs

def create (s : Stubs) : Stubs := { s with count := s.count + 1 }

/-- Tells the engine at `index`, if there is one. -/
def tell (s : Stubs) (index : Nat) (c : EngineCommand) : Option Stubs :=
  if index < s.count then some { s with position := c.moveStub s.position } else none

def positions (s : Stubs) : List Int64 := List.replicate s.count s.position

end Stubs

/-- A world of stub engines, where a scenario says what the ad services answer. -/
def World.stub (scenario : Scenario) : World Int64 where
  position p := p
  manifest _ := scenario.adSession
  createFailure _ := none
  avails _ := scenario.avails
  after p
    | .engine _ c => c.moveStub p
    | _ => p
  takes _ := true

end Playback
