import Playback.Advertising
import Playback.Json.Decoding

/-! Ads, avails and ad sessions in JSON. -/

namespace Playback

open Json

namespace Url

def encode (u : Url) : Json := .string u.text

def decode (j : Json) : Option Url := j.text?.bind parse?

end Url

namespace Ad

def fieldNames : List String := ["ad_id", "title", "duration_micros", "creative_id"]

def encode (a : Ad) : Json :=
  .object [("ad_id", .string a.id), ("title", orNull .string a.title),
    ("duration_micros", .integer a.duration.toInt), ("creative_id", orNull .string a.creativeId)]

def decode (j : Json) : Option Ad := do
  let f ← j.fields fieldNames
  let id ← required text? "ad_id" f
  let title ← optional (nullable text?) none "title" f
  let duration ← optional int64? 0 "duration_micros" f
  let creativeId ← optional (nullable text?) none "creative_id" f
  some { id, title, duration, creativeId }

end Ad

namespace Avail

def fieldNames : List String := ["avail_id", "start_time_micros", "duration_micros", "ads"]

def encode (a : Avail) : Json :=
  .object [("avail_id", .string a.id), ("start_time_micros", .integer a.start.toInt),
    ("duration_micros", .integer a.duration.toInt), ("ads", list Ad.encode a.ads)]

def decode (j : Json) : Option Avail := do
  let f ← j.fields fieldNames
  let id ← required text? "avail_id" f
  let start ← required int64? "start_time_micros" f
  let duration ← required int64? "duration_micros" f
  let ads ← optional (listOf Ad.decode) [] "ads" f
  some { id, start, duration, ads }

end Avail

namespace AdSession

def fieldNames : List String := ["manifest_url", "tracking_url", "session_id"]

def encode (s : AdSession) : Json :=
  .object [("manifest_url", orNull Url.encode s.manifest),
    ("tracking_url", orNull Url.encode s.tracking), ("session_id", .string s.id)]

def decode (j : Json) : Option AdSession := do
  let f ← j.fields fieldNames
  let manifest ← optional (nullable Url.decode) none "manifest_url" f
  let tracking ← optional (nullable Url.decode) none "tracking_url" f
  let id ← required text? "session_id" f
  some { manifest, tracking, id }

end AdSession

end Playback
