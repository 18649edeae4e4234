import Playback.Url.Parser

/-! Ads: a single ad, an avail, which is a slot for ads in a live stream, and the ad session of a
stream, which says where its stitched manifest and its avails are found. Times are in
microseconds. -/

namespace Playback

structure Ad where
  id : String := ""
  title : Option String := none
  duration : Int64 := 0
  creativeId : Option String := none
  deriving DecidableEq, Repr, Inhabited

/-- A scheduled slot for ads. -/
structure Avail where
  id : String
  start : Int64
  duration : Int64
  ads : List Ad := []
  deriving DecidableEq, Repr

structure AdSession where
  /-- The stream with ads in it, which is played in place of the stream. -/
  manifest : Option Url := none
  /-- Where the avails are asked for. -/
  tracking : Option Url := none
  id : String
  deriving DecidableEq, Repr

end Playback
