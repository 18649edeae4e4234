import Playback.Signal
import Playback.Wire.Advertising

/-! Faults and signals in JSON. -/

namespace Playback

open Json

namespace Fault

def encode : Fault → Json
  | .behindLiveWindow => .object [("fault", .string "behind_live_window")]
  | .source message => .object [("fault", .string "source"), ("message", .string message)]
  | .renderer message => .object [("fault", .string "renderer"), ("message", .string message)]
  | .unexpected message => .object [("fault", .string "unexpected"), ("message", .string message)]

/-- A fault with a message, which has to be there. -/
def withMessage (make : String → Fault) (message : Option Json) : Option Fault :=
  message.bind fun m => m.text?.map make

/-- A fault that has no message, at most `null`. -/
def withoutMessage (f : Fault) : Option Json → Option Fault
  | none => some f
  | some .null => some f
  | _ => none

def forms : List (String × (Option Json → Option Fault)) :=
  [("behind_live_window", withoutMessage .behindLiveWindow), ("source", withMessage .source),
    ("renderer", withMessage .renderer), ("unexpected", withMessage .unexpected)]

/-- A fault, with its message in a field beside the tag, which is a choice. An array gives the tag
and the message. -/
def decode (held : Bool) : Json → Option Fault
  | .object members => do
    let form ← required (choice held forms) "fault" members
    match valuesOf "message" members with
    | [] => form none
    | [m] => form (some m)
    | _ => none
  | .array [t, m] => do
    let form ← tag held forms t
    form (some m)
  | _ => none

end Fault

namespace EngineSignal

def encode : EngineSignal → Json
  | .playStarted position =>
    .object [("type", .string "play_started"), ("position_micros", .integer position.toInt)]
  | .paused position =>
    .object [("type", .string "paused"), ("position_micros", .integer position.toInt)]
  | .resumed position =>
    .object [("type", .string "resumed"), ("position_micros", .integer position.toInt)]
  | .seeked origin target =>
    .object [("type", .string "seeked"), ("from_micros", .integer origin.toInt),
      ("to_micros", .integer target.toInt)]
  | .percentWatched percent =>
    .object [("type", .string "percent_watched"), ("percent", .integer percent.toNat)]
  | .adStarted percent =>
    .object [("type", .string "ad_started"), ("percent", .integer percent.toNat)]
  | .adCompleted percent =>
    .object [("type", .string "ad_completed"), ("percent", .integer percent.toNat)]
  | .playCompleted position =>
    .object [("type", .string "play_completed"),
      ("position_micros", orNull (fun p => .integer p.toInt) position)]
  | .contentEnded => .object [("type", .string "content_ended")]
  | .fault f =>
    match f.encode with
    | .object members => .object (("type", .string "fault") :: members)
    | j => j

def withPosition (make : Int64 → EngineSignal) (j : Json) : Option EngineSignal := do
  let f ← j.fields ["position_micros"]
  (required int64? "position_micros" f).map make

def withPercent (make : UInt8 → EngineSignal) (j : Json) : Option EngineSignal := do
  let f ← j.fields ["percent"]
  (required uint8? "percent" f).map make

def forms : List (String × (Json → Option EngineSignal)) :=
  [("play_started", withPosition .playStarted), ("paused", withPosition .paused),
    ("resumed", withPosition .resumed),
    ("seeked", fun j => do
      let f ← j.fields ["from_micros", "to_micros"]
      let origin ← required int64? "from_micros" f
      let target ← required int64? "to_micros" f
      some (.seeked origin target)),
    ("percent_watched", withPercent .percentWatched), ("ad_started", withPercent .adStarted),
    ("ad_completed", withPercent .adCompleted),
    ("play_completed", fun j => do
      let f ← j.fields ["position_micros"]
      (optional (nullable int64?) none "position_micros" f).map .playCompleted),
    ("content_ended", fun j => (j.fields []).map fun _ => .contentEnded),
    ("fault", fun j => (Fault.decode true j).map .fault)]

def decode (held : Bool) : Json → Option EngineSignal := byTag held "type" forms

end EngineSignal

namespace AdSignal

def encode : AdSignal → Json
  | .started ordinal ad =>
    .object [("type", .string "ad_started"), ("ad_type", .integer ordinal.toInt),
      ("ad", ad.encode)]
  | .completed ordinal ad =>
    .object [("type", .string "ad_completed"), ("ad_type", .integer ordinal.toInt),
      ("ad", ad.encode)]
  | .paused ad => .object [("type", .string "ad_paused"), ("ad", ad.encode)]
  | .resumed ad => .object [("type", .string "ad_resumed"), ("ad", ad.encode)]
  | .skipped ad => .object [("type", .string "ad_skipped"), ("ad", ad.encode)]
  | .clicked ad => .object [("type", .string "ad_clicked"), ("ad", ad.encode)]
  | .breakEnded => .object [("type", .string "break_ended")]

def withAd (make : Ad → AdSignal) (j : Json) : Option AdSignal := do
  let f ← j.fields ["ad"]
  (optional Ad.decode {} "ad" f).map make

def numbered (make : Int32 → Ad → AdSignal) (j : Json) : Option AdSignal := do
  let f ← j.fields ["ad_type", "ad"]
  let ordinal ← required int32? "ad_type" f
  let ad ← optional Ad.decode {} "ad" f
  some (make ordinal ad)

def forms : List (String × (Json → Option AdSignal)) :=
  [("ad_started", numbered .started), ("ad_completed", numbered .completed),
    ("ad_paused", withAd .paused), ("ad_resumed", withAd .resumed), ("ad_skipped", withAd .skipped),
    ("ad_clicked", withAd .clicked),
    ("break_ended", fun j => (j.fields []).map fun _ => .breakEnded)]

def decode (held : Bool) : Json → Option AdSignal := byTag held "type" forms

end AdSignal

namespace Signal

def encode : Signal → Json
  | .engine s => .object [("source", .string "engine"), ("signal", s.encode)]
  | .ads s => .object [("source", .string "ad_sdk"), ("signal", s.encode)]

/-- The two sources, each with how its signals are read. -/
def forms : List (String × (Bool → Json → Option Signal)) :=
  [("engine", fun held j => (EngineSignal.decode held j).map .engine),
    ("ad_sdk", fun held j => (AdSignal.decode held j).map .ads)]

/-- A signal beside its source, which is a choice. The signal is held back when it comes first. An
array gives the source and the signal. -/
def decode (held : Bool) : Json → Option Signal
  | .object members => do
    let form ← required (choice held forms) "source" members
    required (form (held || leads "signal" "source" members)) "signal" members
  | .array [t, j] => do
    let form ← tag held forms t
    form held j
  | _ => none

end Signal

end Playback
