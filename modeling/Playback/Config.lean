import Playback.Error
import Playback.Duration

/-! What a session is allowed to do, and how often it asks for avails. -/

namespace Playback

structure Config where
  adsEnabled : Bool := true
  castEnabled : Bool := false
  /-- In milliseconds. -/
  pollPeriod : UInt64 := 18000
  resumePositions : Bool := true
  hideChromeInPip : Bool := true
  deriving DecidableEq, Repr, Inhabited

/-- Why a configuration cannot be used; a period of zero would poll without end. -/
def Config.fault? (c : Config) : Option Error :=
  if c.pollPeriod = 0 then some (.invalidConfig "avail_poll_period_ms must be positive") else none

def Config.period (c : Config) : Duration := Duration.millis c.pollPeriod.toNat

end Playback
