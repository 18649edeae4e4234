import Playback.Json.Value

/-! Writing JSON: on one line without spaces, or on many lines with two spaces of indentation for
each container. Characters outside ASCII stay as they are. -/

namespace Playback.Json

/-- The digit of `n` below 16, in lower case. -/
def hexDigit (n : Nat) : Char := "0123456789abcdef".toList.getD n '0'

/-- How a character stands in a string literal. -/
def escape (c : Char) : List Char :=
  match c with
  | '\x22' => ['\\', '\x22']
  | '\\' => ['\\', '\\']
  | '\x08' => ['\\', 'b']
  | '\x0c' => ['\\', 'f']
  | '\n' => ['\\', 'n']
  | '\r' => ['\\', 'r']
  | '\t' => ['\\', 't']
  | c =>
    if c.toNat < 0x20 then ['\\', 'u', '0', '0', hexDigit (c.toNat / 16), hexDigit (c.toNat % 16)]
    else [c]

/-- A string literal. -/
def quote (s : String) : String :=
  String.ofList ('\x22' :: (s.toList.flatMap escape ++ ['\x22']))

mutual

/-- The value on one line. -/
def compact : Json → String
  | .null => "null"
  | .bool b => toString b
  | .integer n => toString n
  | .real literal => literal
  | .string s => quote s
  | .array elements => "[" ++ String.intercalate "," (compactElements elements) ++ "]"
  | .object members => "\x7b" ++ String.intercalate "," (compactMembers members) ++ "\x7d"
  | .unreadable => "null"

def compactElements : List Json → List String
  | [] => []
  | v :: rest => compact v :: compactElements rest

def compactMembers : List (String × Json) → List String
  | [] => []
  | (name, v) :: rest => (quote name ++ ":" ++ compact v) :: compactMembers rest

end

/-- The start of a line `depth` containers deep. -/
def newLine (depth : Nat) : String := "\n" ++ String.ofList (List.replicate (2 * depth) ' ')

/-- The lines of a container between its brackets; an empty one stays on one line. -/
def block (depth : Nat) (opening closing : String) : List String → String
  | [] => opening ++ closing
  | items =>
    opening ++ newLine (depth + 1) ++ String.intercalate ("," ++ newLine (depth + 1)) items ++
      newLine depth ++ closing

mutual

/-- The value on many lines, `depth` containers deep. -/
def prettyAt (depth : Nat) : Json → String
  | .array elements => block depth "[" "]" (prettyElements depth elements)
  | .object members => block depth "\x7b" "\x7d" (prettyMembers depth members)
  | v => compact v

def prettyElements (depth : Nat) : List Json → List String
  | [] => []
  | v :: rest => prettyAt (depth + 1) v :: prettyElements depth rest

def prettyMembers (depth : Nat) : List (String × Json) → List String
  | [] => []
  | (name, v) :: rest =>
    (quote name ++ ": " ++ prettyAt (depth + 1) v) :: prettyMembers depth rest

end

/-- The value on many lines. -/
def pretty (v : Json) : String := prettyAt 0 v

end Playback.Json
