import Playback.Session.Step

/-! A scenario: what is played, what the ad services answer, and what happens one after another. -/

namespace Playback

inductive ScenarioStep where
  | signal (s : Signal)
  | play
  | pause
  | addVideo (video : Video)
  | switchBackend (backend : Backend)
  | enterPip
  | exitPip
  | wait (millis : UInt64)
  | release
  deriving DecidableEq, Repr

structure Scenario where
  videos : List Video
  /-- An ad tag for each video, if ads are asked for by tags. -/
  adTags : Option (List String) := none
  /-- What is found for a live stream with ads. -/
  adSession : Option AdSession := none
  /-- What each poll brings. -/
  avails : List Avail := []
  steps : List ScenarioStep := []
  deriving DecidableEq, Repr

/-- The first operation of a scenario. -/
def Scenario.opening (s : Scenario) : Operation :=
  match s.adTags with
  | some tags => .initWithAds s.videos tags
  | none => .init s.videos

end Playback
