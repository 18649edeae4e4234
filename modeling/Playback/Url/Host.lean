import Playback.Url.Domain.Ascii
import Playback.Url.Percent

/-! The host of a URL. A scheme with a known port names a domain, which is put in ASCII, or an
address, which is put in its shortest form; any other scheme may name anything without the
characters that end a host. -/

namespace Playback.Url

open Text (splitOn)

/-- The value of a text in base `base`, if it is made of digits only. -/
def digitsIn? (base : Nat) (cs : List Char) : Option Nat :=
  cs.foldlM (fun n c => do
    let d ← hexValue? c
    if d < base then some (base * n + d) else none) 0

/-- A part of an IPv4 address: hexadecimal after `0x`, octal after `0`, else decimal. -/
def ipv4Part? : List Char → Option Nat
  | [] => none
  | '0' :: 'x' :: cs => digitsIn? 16 cs
  | '0' :: 'X' :: cs => digitsIn? 16 cs
  | '0' :: c :: cs => digitsIn? 8 (c :: cs)
  | cs => digitsIn? 10 cs

/-- The parts of a dotted name without an empty last one. -/
def dottedParts (cs : List Char) : List (List Char) :=
  let parts := splitOn (· = '.') cs
  match parts.reverse with
  | [] :: p :: rest => (p :: rest).reverse
  | _ => parts

/-- A domain whose last part is a number has to be an IPv4 address. -/
def endsInNumber (cs : List Char) : Bool :=
  match (dottedParts cs).getLast? with
  | some [] => false
  | some part => part.all Char.isDigit || (ipv4Part? part).isSome
  | none => false

/-- The address that up to four numbers write: all but the last are bytes, and the last fills the
bytes that are left. -/
def ipv4Value? (numbers : List Nat) : Option Nat :=
  match numbers.reverse with
  | [] => none
  | last :: high =>
    if numbers.length ≤ 4 ∧ (∀ n ∈ high, n < 256) ∧ last < Nat.pow 256 (5 - numbers.length) then
      some (high.reverse.foldl (fun v n => 256 * v + n) 0 * Nat.pow 256 (5 - numbers.length) + last)
    else none

/-- An IPv4 address in four decimal parts. -/
def ipv4Text (v : Nat) : List Char :=
  (String.intercalate "." ([v >>> 24, v >>> 16, v >>> 8, v].map fun n =>
    toString (n % 256))).toList

def ipv4? (cs : List Char) : Option (List Char) := do
  let numbers ← (dottedParts cs).mapM ipv4Part?
  (ipv4Value? numbers).map ipv4Text

/-- A 16-bit part of an IPv6 address. -/
def ipv6Part? (cs : List Char) : Option Nat :=
  if 1 ≤ cs.length ∧ cs.length ≤ 4 then digitsIn? 16 cs else none

/-- A byte in decimal without leading zeros. -/
def byte? (cs : List Char) : Option Nat := do
  let n ← digitsIn? 10 cs
  if cs ≠ [] ∧ n < 256 ∧ (cs.head? ≠ some '0' ∨ cs = ['0']) then some n else none

/-- The 16-bit parts that a run of groups writes; the last group of an address may be an IPv4
address, which is two parts. -/
def ipv6Parts? (last : Bool) (groups : List (List Char)) : Option (List Nat) :=
  match groups.reverse with
  | [] => some []
  | tail :: front => do
    let parts ← front.reverse.mapM ipv6Part?
    if last ∧ '.' ∈ tail then
      match ← (splitOn (· = '.') tail).mapM byte? with
      | [a, b, c, d] => some (parts ++ [256 * a + b, 256 * c + d])
      | _ => none
    else
      let n ← ipv6Part? tail
      some (parts ++ [n])

/-- The groups before and after the first `::`, if there is one. -/
def splitGap : List Char → Option (List Char × List Char)
  | ':' :: ':' :: rest => some ([], rest)
  | c :: rest => (splitGap rest).map fun p => (c :: p.1, p.2)
  | [] => none

def groupsOf (cs : List Char) : List (List Char) :=
  if cs = [] then [] else splitOn (· = ':') cs

/-- The eight parts of an IPv6 address. -/
def ipv6Value? (cs : List Char) : Option (List Nat) :=
  match splitGap cs with
  | some (front, back) => do
    let a ← ipv6Parts? false (groupsOf front)
    let b ← ipv6Parts? true (groupsOf back)
    if a.length + b.length < 8 then
      some (a ++ List.replicate (8 - a.length - b.length) 0 ++ b)
    else none
  | none => do
    let a ← ipv6Parts? true (groupsOf cs)
    if a.length = 8 then some a else none

/-- How many zeros a list starts with. -/
def leadingZeros (parts : List Nat) : Nat := (parts.takeWhile (· = 0)).length

/-- Where the longest run of two or more zeros starts, and its length; of equal runs the first. -/
def longestGap (parts : List Nat) : Option (Nat × Nat) :=
  (List.range parts.length).foldl
    (fun best i =>
      let n := leadingZeros (parts.drop i)
      match best with
      | some (_, m) => if m < n then some (i, n) else best
      | none => if 2 ≤ n then some (i, n) else none)
    none

def hexText (n : Nat) : String := String.ofList (Nat.toDigits 16 n)

/-- An IPv6 address with its longest run of zeros left out. -/
def ipv6Text (parts : List Nat) : List Char :=
  let join := fun (ns : List Nat) => String.intercalate ":" (ns.map hexText)
  match longestGap parts with
  | some (i, n) => (join (parts.take i) ++ "::" ++ join (parts.drop (i + n))).toList
  | none => (join parts).toList

/-- The address between brackets. -/
def bracketed? (cs : List Char) : Option (List Char) :=
  match cs.reverse with
  | ']' :: rest => (ipv6Value? rest.reverse).map fun parts => '[' :: (ipv6Text parts ++ [']'])
  | _ => none

/-- Characters that no domain holds. -/
def forbiddenInDomain (c : Char) : Bool :=
  c.toNat ≤ 0x20 || c.toNat = 0x7F || c ∈ "#%/:<>?@[\\]^|".toList

/-- Characters that no other host holds. -/
def forbiddenInHost (c : Char) : Bool := c ∈ "\x00\t\n\r #/:<>?@[\\]^|".toList

/-- The host of a scheme with a known port. -/
def domain? : List Char → Option (List Char)
  | '[' :: cs => bracketed? cs
  | cs => do
    let name ← decode? cs
    let ascii ← asciiDomain? name
    if ascii = [] ∨ ascii.any forbiddenInDomain then none
    else if endsInNumber ascii then ipv4? ascii
    else some ascii

/-- The host of any other scheme. -/
def plainHost? : List Char → Option (List Char)
  | '[' :: cs => bracketed? cs
  | cs => if cs.any forbiddenInHost then none else some (percentEncode isControl cs)

end Playback.Url
