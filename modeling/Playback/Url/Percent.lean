/-! Percent encoding: a character that may not stand as it is in a part of a URL is written as the
bytes of its UTF-8 form, each as a percent sign and two hexadecimal digits. -/

namespace Playback.Url

/-- Control characters and everything outside ASCII: never kept. -/
def isControl (c : Char) : Bool := c.toNat < 0x20 || 0x7E < c.toNat

/-- Characters that are encoded in a fragment. -/
def inFragment (c : Char) : Bool := isControl c || c ∈ " \"<>`".toList

/-- Characters that are encoded in a query; a scheme with a known port encodes the quotation mark
of code 39 as well. -/
def inQuery (special : Bool) (c : Char) : Bool :=
  isControl c || c ∈ " \"#<>".toList || (special && c.toNat = 39)

/-- Characters that are encoded in a path. -/
def inPath (c : Char) : Bool := inFragment c || c ∈ "#?\x7b\x7d".toList

/-- Characters that are encoded in a user name or a password. -/
def inUserInfo (c : Char) : Bool := inPath c || c ∈ "/:;=@[\\]^|".toList

/-- A hexadecimal digit in upper case. -/
def upperHex (n : Nat) : Char := "0123456789ABCDEF".toList.getD n '0'

def encodeByte (b : UInt8) : List Char :=
  ['%', upperHex (b.toNat / 16), upperHex (b.toNat % 16)]

def utf8 (c : Char) : List UInt8 := (String.singleton c).toUTF8.toList

/-- The text with every character of `set` encoded. -/
def percentEncode (set : Char → Bool) (cs : List Char) : List Char :=
  cs.flatMap fun c => if set c then (utf8 c).flatMap encodeByte else [c]

/-- The value of a hexadecimal digit of either case. -/
def hexValue? (c : Char) : Option Nat :=
  if '0' ≤ c ∧ c ≤ '9' then some (c.toNat - '0'.toNat)
  else if 'a' ≤ c ∧ c ≤ 'f' then some (c.toNat - 'a'.toNat + 10)
  else if 'A' ≤ c ∧ c ≤ 'F' then some (c.toNat - 'A'.toNat + 10)
  else none

/-- The bytes that a text stands for; a percent sign without two digits stands for itself. -/
def decodeBytes : List Char → List UInt8
  | '%' :: h :: l :: rest =>
    match hexValue? h, hexValue? l with
    | some a, some b => UInt8.ofNat (16 * a + b) :: decodeBytes rest
    | _, _ => 0x25 :: decodeBytes (h :: l :: rest)
  | c :: rest => utf8 c ++ decodeBytes rest
  | [] => []

/-- The text that a percent-encoded text stands for, if its bytes are UTF-8. -/
def decode? (cs : List Char) : Option (List Char) :=
  (String.fromUTF8? (decodeBytes cs).toByteArray).map String.toList

end Playback.Url
