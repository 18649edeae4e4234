/-! Labels in ASCII. A label that has a character outside ASCII is written as its ASCII characters
and then where each of the others goes in. The others go in by code point, equal ones from left to
right, so the pairs of a code point and a place among what stands there already come in increasing
order, and each is written as its distance from the one before. -/

namespace Playback.Url

def isAscii (c : Char) : Bool := c.toNat < 128

/-- A character that goes in at `place`, among the characters that stand there already. -/
structure Insertion where
  code : Nat
  place : Nat
  deriving DecidableEq, Repr

/-- Where the characters of code point `code` go in; `smaller` characters of `label` stand there
that are to the left. -/
def insertionsOf (code smaller : Nat) : List Char → List Insertion
  | [] => []
  | c :: rest =>
    let later := insertionsOf code (if c.toNat ≤ code then smaller + 1 else smaller) rest
    if c.toNat = code then ⟨code, smaller⟩ :: later else later

/-- The characters outside ASCII in the order in which they go in. -/
def insertions (label : List Char) : List Insertion :=
  let codes := ((label.filter (!isAscii ·)).map Char.toNat).mergeSort.eraseDups
  codes.flatMap fun code => insertionsOf code 0 label

/-- How many pairs lie between `first` and each insertion that follows, where `count` characters
stand already. -/
def distances (count : Nat) (first : Insertion) : List Insertion → List Nat
  | [] => []
  | i :: rest =>
    ((i.code - first.code) * (count + 1) + i.place - first.place) ::
      distances (count + 1) ⟨i.code, i.place + 1⟩ rest

/-- The least value of a digit at position `k` that is not the last of its number. -/
def leastDigit (bias k : Nat) : Nat := max 1 (min 26 (36 * k - bias))

/-- A number in digits below 36, the one of position `k` first. A digit below the least one of its
position ends the number. -/
def digits (bias k n : Nat) : List Nat :=
  let least := leastDigit bias k
  if n < least then [n]
  else
    (least + (n - least) % (36 - least)) :: digits bias (k + 1) ((n - least) / (36 - least))
termination_by n
decreasing_by
  have h : 1 ≤ leastDigit bias k := Nat.le_max_left _ _
  have := Nat.div_le_self (n - leastDigit bias k) (36 - leastDigit bias k)
  omega

/-- The bias for numbers around `n`. -/
def biasAround (n : Nat) : Nat :=
  if 455 < n then 36 + biasAround (n / 35) else 36 * n / (n + 38)

/-- The numbers in digits, where `count` characters stand already. The bias of each follows from the
number before. -/
def written (count bias divisor : Nat) : List Nat → List Nat
  | [] => []
  | n :: rest =>
    let share := n / divisor
    digits bias 1 n ++ written (count + 1) (biasAround (share + share / (count + 1))) 2 rest

/-- A digit as a character: a letter below 26, then a decimal digit. -/
def digitChar (d : Nat) : Char := if d < 26 then Char.ofNat (97 + d) else Char.ofNat (22 + d)

/-- A label in ASCII characters. -/
def punycode (label : List Char) : List Char :=
  let basic := label.filter isAscii
  let numbers := distances basic.length ⟨128, 0⟩ (insertions label)
  (if basic = [] then [] else basic ++ ['-']) ++
    (written basic.length 72 700 numbers).map digitChar

/-- The value of a digit, as a letter in lower case or a decimal digit. -/
def digitValue? (c : Char) : Option Nat :=
  if 'a' ≤ c ∧ c ≤ 'z' then some (c.toNat - 'a'.toNat)
  else if '0' ≤ c ∧ c ≤ '9' then some (c.toNat - '0'.toNat + 26)
  else none

/-- A label that is read: the characters that stand already, the code point and the place after the
last one that went in, and of the number that says where the next one goes the digits so far: their
value from that place on, and the position and the weight of the next digit. -/
structure Restoring where
  label : List Char
  code : Nat
  place : Nat
  bias : Nat
  value : Nat
  position : Nat
  weight : Nat

/-- What stands before the first digit. -/
def Restoring.start (basic : List Char) : Restoring := ⟨basic, 128, 0, 72, 0, 1, 1⟩

/-- The next character goes in at `value`, counted through the places of one code point after the
other. -/
def Restoring.insert? (s : Restoring) (value : Nat) : Option Restoring :=
  let count := s.label.length + 1
  let code := s.code + value / count
  let place := value % count
  if code.isValidChar then
    let share := (value - s.place) / if s.place = 0 then 700 else 2
    some ⟨s.label.take place ++ Char.ofNat code :: s.label.drop place, code, place + 1,
      biasAround (share + share / count), place + 1, 1, 1⟩
  else none

/-- The next digit; numbers are kept in 32 bits. -/
def Restoring.step (s : Restoring) (c : Char) : Option Restoring := do
  let digit ← digitValue? c
  let value := s.value + digit * s.weight
  let least := leastDigit s.bias s.position
  let weight := s.weight * (36 - least)
  if UInt32.size ≤ value then none
  else if digit < least then s.insert? value
  else if UInt32.size ≤ weight then none
  else some { s with value := value, position := s.position + 1, weight := weight }

/-- The label that is written in ASCII characters as `text`: what stands before the last hyphen, if
anything does, are its own ASCII characters. It has others as well. -/
def ofPunycode? (text : List Char) : Option (List Char) := do
  let (after, before) := text.reverse.span (· ≠ '-')
  let basic := (before.drop 1).reverse
  let digits := if basic = [] then text else after.reverse
  let s ← digits.foldlM Restoring.step (.start basic)
  if s.position = 1 ∧ basic.all isAscii ∧ digits ≠ [] then some s.label else none

end Playback.Url
