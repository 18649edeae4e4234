import Playback.Text.Parts

/-! Tables over code points. They are kept as text, a row of hexadecimal numbers in increasing
order, and searched by halves. A set of code points is a row of runs, each by its first and its
last, or by the only one. A table of replacements has a number with a colon for the code point at
which it goes on, and a word for each code point from there. -/

namespace Playback.Text

/-- Values under keys that increase. -/
structure Table (α : Type) where
  entries : Array (Nat × α)

namespace Table

/-- How many keys are not above `n`, where at least `low` of them and at most `high` are not. -/
def countUpTo (t : Table α) (n low high : Nat) : Nat :=
  if low < high then
    let middle := (low + high) / 2
    if t.entries[middle]?.any (·.1 ≤ n) then t.countUpTo n (middle + 1) high
    else t.countUpTo n low middle
  else low
termination_by high - low

/-- The entry with the greatest key that is not above `n`. -/
def floor? (t : Table α) (n : Nat) : Option (Nat × α) :=
  match t.countUpTo n 0 t.entries.size with
  | 0 => none
  | k + 1 => t.entries[k]?

/-- The value under the key `n`. -/
def get? (t : Table α) (n : Nat) : Option α :=
  (t.floor? n).bind fun e => if e.1 = n then some e.2 else none

end Table

/-- The value of a hexadecimal number in capital letters. -/
def hexadecimal (digits : List Char) : Nat :=
  digits.foldl
    (fun n c => 16 * n + if c.isDigit then c.toNat - '0'.toNat else c.toNat - 'A'.toNat + 10) 0

/-- Characters by the runs in which their code points follow each other: the last of a run is kept
under its first. -/
structure CharSet where
  runs : Table Nat

namespace CharSet

/-- The set that a text lists. -/
def ofText (text : String) : CharSet :=
  ⟨⟨((words text).map fun w =>
    match splitOn (· = '-') w with
    | [first, last] => (hexadecimal first, hexadecimal last)
    | _ => (hexadecimal w, hexadecimal w)).toArray⟩⟩

def contains (s : CharSet) (c : Char) : Bool := (s.runs.floor? c.toNat).any (c.toNat ≤ ·.2)

end CharSet

/-- What each code point is replaced by. -/
abbrev Replacements := Table (List Nat)

namespace Replacements

/-- The entries that a word makes at `n`, and where the next word goes on. Numbers joined by points
replace one code point; `a+k` replaces it and the next `k` by numbers from `a` on, and `a/k` does so
for every second one. -/
def entriesAt (n : Nat) (w : List Char) : List (Nat × List Nat) × Nat :=
  match splitOn (· = '+') w, splitOn (· = '/') w with
  | [a, k], _ =>
    ((List.range (hexadecimal k + 1)).map fun i => (n + i, [hexadecimal a + i]),
      n + hexadecimal k + 1)
  | _, [a, k] =>
    ((List.range (hexadecimal k + 1)).map fun i => (n + 2 * i, [hexadecimal a + 2 * i]),
      n + 2 * hexadecimal k + 1)
  | _, _ => ([(n, (splitOn (· = '.') w).map hexadecimal)], n + 1)

/-- The entries of a row of words, the first of which is for the code point `n`. -/
def entriesFrom (n : Nat) : List (List Char) → List (Nat × List Nat)
  | [] => []
  | w :: rest =>
    if w.getLast? = some ':' then entriesFrom (hexadecimal w.dropLast) rest
    else
      let (entries, next) := entriesAt n w
      entries ++ entriesFrom next rest

/-- The replacements that a text lists. -/
def ofText (text : String) : Replacements := ⟨(entriesFrom 0 (words text)).toArray⟩

end Replacements

end Playback.Text
