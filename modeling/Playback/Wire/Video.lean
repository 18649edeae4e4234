import Playback.Config
import Playback.Json.Decoding

/-! Videos and configurations in JSON. -/

namespace Playback

open Json

namespace Captions

def names : List (String × Captions) := [("default", .standard), ("on", .on), ("off", .off)]

def encode (c : Captions) : Json := .string c.name

def decode (held : Bool) : Json → Option Captions := choice held names

end Captions

namespace Backend

def names : List (String × Backend) := [("local", .device), ("cast", .cast)]

def encode (b : Backend) : Json := .string b.name

def decode (held : Bool) : Json → Option Backend := choice held names

end Backend

namespace Video

def fieldNames : List String :=
  ["id", "duration_micros", "is_live", "start_position_micros", "ad_tag_url", "should_play_ads",
    "cc_mode"]

def encode (v : Video) : Json :=
  .object [("id", .string v.id), ("duration_micros", .integer v.duration.toInt),
    ("is_live", .bool v.isLive), ("start_position_micros", .integer v.start.toInt),
    ("ad_tag_url", orNull .string v.adTag), ("should_play_ads", .bool v.wantsAds),
    ("cc_mode", v.captions.encode)]

def decode (held : Bool) (j : Json) : Option Video := do
  let f ← j.fields fieldNames
  let id ← required text? "id" f
  let duration ← optional int64? 0 "duration_micros" f
  let isLive ← optional bool? false "is_live" f
  let start ← optional int64? 0 "start_position_micros" f
  let adTag ← optional (nullable text?) none "ad_tag_url" f
  let wantsAds ← optional bool? false "should_play_ads" f
  let captions ← optional (Captions.decode held) .standard "cc_mode" f
  some { id, duration, isLive, start, adTag, wantsAds, captions }

end Video

namespace Config

def fieldNames : List String :=
  ["ads_enabled", "cast_enabled", "avail_poll_period_ms", "resume_saved_positions",
    "hide_chrome_in_pip"]

def encode (c : Config) : Json :=
  .object [("ads_enabled", .bool c.adsEnabled), ("cast_enabled", .bool c.castEnabled),
    ("avail_poll_period_ms", .integer c.pollPeriod.toNat),
    ("resume_saved_positions", .bool c.resumePositions),
    ("hide_chrome_in_pip", .bool c.hideChromeInPip)]

def decode (j : Json) : Option Config := do
  let f ← j.fields fieldNames
  let adsEnabled ← optional bool? true "ads_enabled" f
  let castEnabled ← optional bool? false "cast_enabled" f
  let pollPeriod ← optional uint64? 18000 "avail_poll_period_ms" f
  let resumePositions ← optional bool? true "resume_saved_positions" f
  let hideChromeInPip ← optional bool? true "hide_chrome_in_pip" f
  some { adsEnabled, castEnabled, pollPeriod, resumePositions, hideChromeInPip }

end Config

end Playback
