import Playback.Json.Value

/-! Taking values out of JSON. A record is an object, or an array of its fields in order; a field
that is not known is skipped, and a known one may stand only once. A choice among records names
the one that is meant in a field of its own, the tag, which may come after the fields it decides
about: the value is then held back whole, so nothing in it may be unreadable. -/

namespace Playback.Json

/-- The values of the members called `name`, in order. -/
def valuesOf (name : String) (members : List (String × Json)) : List Json :=
  members.filterMap fun m => if m.1 = name then some m.2 else none

/-- The members of a record with the fields `names`. An array gives them by position, and may stop
early. -/
def fields (names : List String) : Json → Option (List (String × Json))
  | .object members => some members
  | .array elements => if elements.length ≤ names.length then some (names.zip elements) else none
  | _ => none

/-- The value of a field that has to be there. -/
def required (decode : Json → Option α) (name : String) (members : List (String × Json)) :
    Option α :=
  match valuesOf name members with
  | [v] => decode v
  | _ => none

/-- The value of a field that may be missing. -/
def optional (decode : Json → Option α) (default : α) (name : String)
    (members : List (String × Json)) : Option α :=
  match valuesOf name members with
  | [] => some default
  | [v] => decode v
  | _ => none

def text? : Json → Option String
  | .string s => some s
  | _ => none

def bool? : Json → Option Bool
  | .bool b => some b
  | _ => none

/-- An integer from `low` to `high`. -/
def integer? (low high : Int) : Json → Option Int
  | .integer n => if low ≤ n ∧ n ≤ high then some n else none
  | _ => none

def int64? (v : Json) : Option Int64 :=
  (integer? Int64.minValue.toInt Int64.maxValue.toInt v).map Int64.ofInt

def int32? (v : Json) : Option Int32 :=
  (integer? Int32.minValue.toInt Int32.maxValue.toInt v).map Int32.ofInt

def uint64? (v : Json) : Option UInt64 :=
  (integer? 0 (UInt64.size - 1) v).map fun n => UInt64.ofNat n.toNat

def uint8? (v : Json) : Option UInt8 :=
  (integer? 0 (UInt8.size - 1) v).map fun n => UInt8.ofNat n.toNat

/-- `null`, or a value. -/
def nullable (decode : Json → Option α) : Json → Option (Option α)
  | .null => some none
  | v => (decode v).map some

def listOf (decode : Json → Option α) : Json → Option (List α)
  | .array elements => elements.mapM decode
  | _ => none

/-- One of several names, alone or as the only member of an object with nothing under it. In a
value that was held back, an empty object is nothing as well. -/
def choice (held : Bool) (names : List (String × α)) : Json → Option α
  | .string s => names.lookup s
  | .object [(s, .null)] => names.lookup s
  | .object [(s, .object [])] => if held then names.lookup s else none
  | _ => none

/-- The value of a tag: one of several names, or its place among them in a value that was held
back. -/
def tag (held : Bool) (names : List (String × α)) : Json → Option α
  | .string s => names.lookup s
  | .integer n => if held ∧ 0 ≤ n then (names[n.toNat]?).map (·.2) else none
  | _ => none

/-- What the tag in the field `name` chooses, and the value without its tag. In an array the tag
comes first. -/
def tagged (held : Bool) (name : String) (names : List (String × α)) (v : Json) :
    Option (α × Json) :=
  if v.readable then
    match v with
    | .object members =>
      (required (tag held names) name members).map
        (·, .object (members.filter fun m => m.1 ≠ name))
    | .array (t :: rest) => (tag held names t).map (·, .array rest)
    | _ => none
  else none

/-- A record whose tag chooses how the rest of it is read. -/
def byTag (held : Bool) (name : String) (forms : List (String × (Json → Option α))) (v : Json) :
    Option α := do
  let (decode, body) ← tagged held name forms v
  decode body

/-- A member called `first` comes before every one called `second`. -/
def leads (first second : String) (members : List (String × Json)) : Bool :=
  match members.find? fun m => m.1 = first || m.1 = second with
  | some m => m.1 = first
  | none => false

end Playback.Json
