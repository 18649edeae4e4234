/-! Videos: what a session plays. A video is described once; only its id may be replaced later, by
the address of the manifest that has ads stitched into it. -/

namespace Playback

/-- The position that stands for "unknown". -/
def noPosition : Int64 := Int64.minValue

/-- `n` kept within the range of a position. -/
def clampPosition (n : Int) : Int := max Int64.minValue.toInt (min n Int64.maxValue.toInt)

/-- Whether a video is shown with captions. -/
inductive Captions where
  | standard
  | on
  | off
  deriving DecidableEq, Repr, Inhabited

def Captions.name : Captions → String
  | .standard => "default"
  | .on => "on"
  | .off => "off"

/-- The family of engines that renders a session: the player's own, or a receiver it casts to. -/
inductive Backend where
  | device
  | cast
  deriving DecidableEq, Repr, Inhabited

def Backend.name : Backend → String
  | .device => "local"
  | .cast => "cast"

/-- A video; times are in microseconds. -/
structure Video where
  id : String
  duration : Int64 := 0
  isLive : Bool := false
  start : Int64 := 0
  adTag : Option String := none
  wantsAds : Bool := false
  captions : Captions := .standard
  deriving DecidableEq, Repr

namespace Video

/-- A video on demand. -/
def onDemand (id : String) (duration : Int64) : Video := { id, duration }

/-- A live stream, which has no duration. -/
def live (id : String) : Video := { id, isLive := true }

def withStart (v : Video) (position : Int64) : Video := { v with start := position }

/-- The video with ads, and with the tag that asks for them if there is one. -/
def withAds (v : Video) (tag : Option String) : Video := { v with wantsAds := true, adTag := tag }

def withCaptions (v : Video) (captions : Captions) : Video := { v with captions }

def withId (v : Video) (id : String) : Video := { v with id }

/-- How much of the video lies before `position`, in percent from 0 to 100; a live stream and a
video without duration have nothing to measure. A hundred times the position is kept within the
range of positions before it is divided. -/
def percentAt (v : Video) (position : Int64) : UInt8 :=
  if v.isLive ∨ v.duration ≤ 0 ∨ position ≤ 0 then 0
  else UInt8.ofNat (min (clampPosition (position.toInt * 100) / v.duration.toInt) 100).toNat

end Video

end Playback
