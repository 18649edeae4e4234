/-! JSON values as a text gives them: the members of an object in their order, repeated names
included, and an integer apart from every other number. `unreadable` is a part of a text that is
well formed and still stands for no value, so it can be skipped but not used. -/

namespace Playback

inductive Json where
  | null
  | bool (value : Bool)
  /-- A number written as a plain integer, from `-2^63` to `2^64 - 1` and not `-0`. -/
  | integer (value : Int)
  /-- Any other number, as it is written. -/
  | real (literal : String)
  | string (value : String)
  | array (elements : List Json)
  | object (members : List (String × Json))
  /-- A string with half of a surrogate pair, a number too large for a double, or nesting past
  `Json.nestingLimit`. -/
  | unreadable
  deriving Inhabited

namespace Json

/-- How deep arrays and objects may be nested in a value that is used. -/
def nestingLimit : Nat := 127

mutual

/-- No part of the value is unreadable. -/
def readable : Json → Bool
  | .array elements => readableElements elements
  | .object members => readableMembers members
  | .unreadable => false
  | _ => true

def readableElements : List Json → Bool
  | [] => true
  | v :: rest => readable v && readableElements rest

def readableMembers : List (String × Json) → Bool
  | [] => true
  | (_, v) :: rest => readable v && readableMembers rest

end

/-- `members` in the order of their names by code points; equal names keep their order. -/
def sortMembers (members : List (String × Json)) : List (String × Json) :=
  members.mergeSort fun a b => decide (a.1 ≤ b.1)

mutual

/-- The value with the members of every object sorted by name. -/
def sorted : Json → Json
  | .array elements => .array (sortedElements elements)
  | .object members => .object (sortMembers (sortedMembers members))
  | v => v

def sortedElements : List Json → List Json
  | [] => []
  | v :: rest => sorted v :: sortedElements rest

def sortedMembers : List (String × Json) → List (String × Json)
  | [] => []
  | (name, v) :: rest => (name, sorted v) :: sortedMembers rest

end

/-- A value of an optional field: `null` when it is missing. -/
def orNull (encode : α → Json) : Option α → Json
  | none => .null
  | some a => encode a

/-- The values of `xs` in order. -/
def list (encode : α → Json) (xs : List α) : Json :=
  .array (xs.map encode)

end Json

end Playback
