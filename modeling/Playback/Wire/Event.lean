import Playback.Failure
import Playback.Tracking.Emitter
import Playback.Wire.Advertising

/-! Events and failures in JSON. The fields of a payload stand beside those of its event. -/

namespace Playback

open Json

namespace Payload

/-- The name of the payload and its fields. -/
def members : Payload → List (String × Json)
  | .none => [("payload", .string "none")]
  | .playback position covered =>
    [("payload", .string "playback"), ("position_micros", .integer position.toInt),
      ("percent", .integer covered.toNat)]
  | .percent covered => [("payload", .string "percent"), ("percent", .integer covered.toNat)]
  | .seek origin target =>
    [("payload", .string "seek"), ("from_micros", .integer origin.toInt),
      ("to_micros", .integer target.toInt)]
  | .ad a => [("payload", .string "ad"), ("ad", a.encode)]
  | .avails slots timelinePosition =>
    [("payload", .string "avails"), ("avails", list Avail.encode slots),
      ("timeline_position_micros", .integer timelinePosition.toInt)]
  | .info message => [("payload", .string "info"), ("message", .string message)]

def encode (p : Payload) : Json := .object p.members

end Payload

namespace Event

def members (e : Event) : List (String × Json) :=
  ("video_id", .string e.videoId) :: ("kind", .string e.kind.name) :: e.payload.members

def encode (e : Event) : Json := .object e.members

end Event

/-- A record has the fields of its event beside its own. -/
def Record.encode (r : Record) : Json :=
  .object
    (("id", .string r.id) :: ("session_id", .string r.sessionId) ::
      ("timestamp", .string r.timestamp) :: ("sequence", .integer r.sequence) :: r.event.members)

def Failure.encode (f : Failure) : Json :=
  .object [("kind", .string f.kind.code), ("message", .string f.message)]

end Playback
