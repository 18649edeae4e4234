import Playback.State
import Playback.Wire.Video

/-! Phases and states in JSON. -/

namespace Playback

open Json

namespace Phase

def encode : Phase → Json
  | .idle => .object [("phase", .string "idle")]
  | .ready => .object [("phase", .string "ready")]
  | .playing => .object [("phase", .string "playing")]
  | .paused => .object [("phase", .string "paused")]
  | .adBreak still => .object [("phase", .string "ad_break"), ("paused", .bool still)]
  | .ended => .object [("phase", .string "ended")]

/-- A phase about which nothing more is said; other fields are skipped. -/
def plain (p : Phase) (j : Json) : Option Phase := (j.fields []).map fun _ => p

def forms : List (String × (Json → Option Phase)) :=
  [("idle", plain .idle), ("ready", plain .ready), ("playing", plain .playing),
    ("paused", plain .paused),
    ("ad_break", fun j => do
      let f ← j.fields ["paused"]
      (required bool? "paused" f).map .adBreak),
    ("ended", plain .ended)]

def decode : Json → Option Phase := byTag false "phase" forms

end Phase

namespace State

def fieldNames : List String :=
  ["phase", "backend", "play_started", "first_ad_completed", "sticky", "in_picture_in_picture"]

def encode (s : State) : Json :=
  .object [("phase", s.phase.encode), ("backend", s.backend.encode),
    ("play_started", .bool s.playStarted), ("first_ad_completed", .bool s.firstAdCompleted),
    ("sticky", .bool s.sticky), ("in_picture_in_picture", .bool s.inPip)]

def decode (j : Json) : Option State := do
  let f ← j.fields fieldNames
  let phase ← required Phase.decode "phase" f
  let backend ← required (Backend.decode false) "backend" f
  let playStarted ← required bool? "play_started" f
  let firstAdCompleted ← required bool? "first_ad_completed" f
  let sticky ← required bool? "sticky" f
  let inPip ← required bool? "in_picture_in_picture" f
  some { phase, backend, playStarted, firstAdCompleted, sticky, inPip }

end State

end Playback
