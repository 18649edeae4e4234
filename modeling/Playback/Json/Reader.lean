import Playback.Json.Value

/-! Reading JSON text, strictly: nothing but spaces, tabs and line ends between tokens, no trailing
text, no raw control character in a string. The text is cut into tokens one character at a time,
and the tokens are put together with a stack of the containers that are still open, so both passes
are folds over their input. -/

namespace Playback.Json

/-- A step of a string literal: a character as it stands, or the 16-bit unit of a `\u` escape. -/
inductive Piece where
  | char (c : Char)
  | unit (n : Nat)

/-- The first unit of a surrogate pair. -/
def isLeading (n : Nat) : Bool := 0xD800 ≤ n && n < 0xDC00

/-- The second unit of a surrogate pair. -/
def isTrailing (n : Nat) : Bool := 0xDC00 ≤ n && n < 0xE000

/-- The characters that the pieces spell. A surrogate pair is one character, and half of one is
none. -/
def spell : List Piece → Option (List Char)
  | [] => some []
  | .char c :: rest => (spell rest).map (c :: ·)
  | .unit n :: .unit m :: rest =>
    if isTrailing n then none
    else if isLeading n then
      if isTrailing m then
        (spell rest).map (Char.ofNat (0x10000 + (n - 0xD800) * 0x400 + (m - 0xDC00)) :: ·)
      else none
    else (spell (.unit m :: rest)).map (Char.ofNat n :: ·)
  | .unit n :: rest =>
    if isTrailing n || isLeading n then none else (spell rest).map (Char.ofNat n :: ·)

inductive Token where
  | openArray
  | closeArray
  | openObject
  | closeObject
  | comma
  | colon
  /-- A string literal; `none` when its escapes spell no text. -/
  | text (s : Option String)
  /-- A number, `true`, `false` or `null`. -/
  | scalar (v : Json)

/-- The value of a run of decimal digits. -/
def decimal (digits : List Char) : Nat :=
  digits.foldl (fun n c => 10 * n + (c.toNat - '0'.toNat)) 0

/-- A run of digits that is not empty, and what follows it. -/
def digits? (cs : List Char) : Option (List Char × List Char) :=
  match cs.takeWhile Char.isDigit with
  | [] => none
  | ds => some (ds, cs.dropWhile Char.isDigit)

/-- The fraction of a number without its point, empty when there is none. -/
def fraction? : List Char → Option (List Char × List Char)
  | '.' :: cs => digits? cs
  | cs => some ([], cs)

/-- The exponent of a number, which ends it. -/
def exponent? : List Char → Option Int
  | [] => some 0
  | e :: cs =>
    if e = 'e' ∨ e = 'E' then
      let (negative, cs) := match cs with
        | '-' :: rest => (true, rest)
        | '+' :: rest => (false, rest)
        | _ => (false, cs)
      match digits? cs with
      | some (ds, []) => some (if negative then -(decimal ds : Int) else decimal ds)
      | _ => none
    else none

/-- `n` with as many of `digits` written after it as leave it in 64 bits, and how many those are. -/
def extended (n : Nat) : List Char → Nat × Nat
  | [] => (n, 0)
  | c :: digits =>
    let m := 10 * n + (c.toNat - '0'.toNat)
    if m < UInt64.size then
      let (value, count) := extended m digits
      (value, count + 1)
    else (n, 0)

/-- The nearest number whose binary digits are zeros after the first 53; of two that are equally
near, the one whose 53rd digit is zero. -/
def nearestDouble (n : Nat) : Nat :=
  let unit := 1 <<< (n.log2 - 52)
  let count := n / unit
  let left := n % unit
  if unit < 2 * left ∨ (2 * left = unit ∧ count % 2 = 1) then (count + 1) * unit else count * unit

/-- The product of two doubles, of a significand and of a power of ten, rounds to a finite one. -/
def fitsDouble (significand : Nat) (exponent : Int) : Bool :=
  significand = 0 || exponent < 0 ||
    (exponent ≤ 308 && nearestDouble significand * nearestDouble (Nat.pow 10 exponent.toNat)
      < 1 <<< 1024 - 1 <<< 970)

/-- A number with these digits fits in a double. Digits that do not fit in 64 bits are not weighed:
before the point each of them still counts as a power of ten, and after it none does. -/
def fits (whole fraction : List Char) (exponent : Int) : Bool :=
  let (n, taken) := extended 0 whole
  let (significand, places) := extended n fraction
  fitsDouble significand (exponent + (whole.length - taken : Nat) - places)

/-- The number that `cs` writes. -/
def number? (cs : List Char) : Option Json := do
  let (negative, body) := match cs with
    | '-' :: rest => (true, rest)
    | _ => (false, cs)
  let (whole, rest) ← digits? body
  if whole.head? = some '0' ∧ whole ≠ ['0'] then none
  else
    let (fraction, tail) ← fraction? rest
    let exponent ← exponent? tail
    let n := decimal whole
    if rest = [] ∧ negative ∧ 0 < n ∧ Int64.minValue.toInt ≤ -n then some (.integer (-(n : Int)))
    else if rest = [] ∧ !negative ∧ n < UInt64.size then some (.integer n)
    else if fits whole fraction exponent then some (.real (String.ofList cs))
    else some .unreadable

/-- A literal that is not a string. -/
def scalar? (cs : List Char) : Option Json :=
  if cs = "null".toList then some .null
  else if cs = "true".toList then some (.bool true)
  else if cs = "false".toList then some (.bool false)
  else number? cs

/-- Where the reader stands between two characters; what has been read is in reverse. -/
inductive Mode where
  | between
  | literal (cs : List Char)
  | text (pieces : List Piece)
  | escape (pieces : List Piece)
  | hex (pieces : List Piece) (digits : Nat) (value : Nat)

/-- The tokens read so far, in reverse, and where the reader stands. -/
structure Lexing where
  tokens : List Token
  mode : Mode

def isSpace (c : Char) : Bool := c = ' ' || c = '\t' || c = '\n' || c = '\r'

/-- The characters of numbers and words. -/
def isLiteral (c : Char) : Bool := c.isAlphanum || c = '-' || c = '+' || c = '.'

def hexDigit? (c : Char) : Option Nat :=
  if '0' ≤ c ∧ c ≤ '9' then some (c.toNat - '0'.toNat)
  else if 'a' ≤ c ∧ c ≤ 'f' then some (c.toNat - 'a'.toNat + 10)
  else if 'A' ≤ c ∧ c ≤ 'F' then some (c.toNat - 'A'.toNat + 10)
  else none

/-- A character outside strings and literals. -/
def lexBetween (tokens : List Token) (c : Char) : Option Lexing :=
  if isSpace c then some ⟨tokens, .between⟩
  else if c = '\x22' then some ⟨tokens, .text []⟩
  else if isLiteral c then some ⟨tokens, .literal [c]⟩
  else match c with
    | '[' => some ⟨.openArray :: tokens, .between⟩
    | ']' => some ⟨.closeArray :: tokens, .between⟩
    | '\x7b' => some ⟨.openObject :: tokens, .between⟩
    | '\x7d' => some ⟨.closeObject :: tokens, .between⟩
    | ',' => some ⟨.comma :: tokens, .between⟩
    | ':' => some ⟨.colon :: tokens, .between⟩
    | _ => none

/-- The character that a one-letter escape stands for. -/
def escaped? : Char → Option Char
  | '\x22' => some '\x22'
  | '\\' => some '\\'
  | '/' => some '/'
  | 'b' => some '\x08'
  | 'f' => some '\x0c'
  | 'n' => some '\n'
  | 'r' => some '\r'
  | 't' => some '\t'
  | _ => none

def lexStep (s : Lexing) (c : Char) : Option Lexing :=
  match s.mode with
  | .between => lexBetween s.tokens c
  | .literal cs =>
    if isLiteral c then some ⟨s.tokens, .literal (c :: cs)⟩
    else match scalar? cs.reverse with
      | some v => lexBetween (.scalar v :: s.tokens) c
      | none => none
  | .text pieces =>
    if c = '\x22' then
      some ⟨.text ((spell pieces.reverse).map String.ofList) :: s.tokens, .between⟩
    else if c = '\\' then some ⟨s.tokens, .escape pieces⟩
    else if c.toNat < 0x20 then none
    else some ⟨s.tokens, .text (.char c :: pieces)⟩
  | .escape pieces =>
    if c = 'u' then some ⟨s.tokens, .hex pieces 0 0⟩
    else (escaped? c).map fun e => ⟨s.tokens, .text (.char e :: pieces)⟩
  | .hex pieces digits value =>
    (hexDigit? c).map fun d =>
      if digits = 3 then ⟨s.tokens, .text (.unit (16 * value + d) :: pieces)⟩
      else ⟨s.tokens, .hex pieces (digits + 1) (16 * value + d)⟩

/-- The tokens of a text. -/
def tokens? (text : String) : Option (List Token) := do
  let s ← text.toList.foldlM lexStep ⟨[], .between⟩
  match s.mode with
  | .between => some s.tokens.reverse
  | .literal cs => (scalar? cs.reverse).map fun v => (.scalar v :: s.tokens).reverse
  | _ => none

/-- A container that is still open; what it holds so far is in reverse. -/
inductive Frame where
  | elements (done : List Json)
  | members (done : List (Option String × Json))
  /-- An object whose member of this name is being read. -/
  | member (done : List (Option String × Json)) (name : Option String)

/-- What may come next. -/
inductive Expect where
  | value
  | firstElement
  | firstName
  | nextName
  | colon (name : Option String)
  /-- A separator, a close or the end, after this value. -/
  | afterValue (v : Json)

/-- The containers that are open, the innermost first, and what may come next. -/
structure Reading where
  frames : List Frame
  expect : Expect

/-- A container that closes inside `outer` open ones. -/
def closed (outer : Nat) (v : Json) : Json :=
  if outer < nestingLimit then v else .unreadable

/-- An object is unreadable when a name of it is. -/
def closedObject (outer : Nat) (done : List (Option String × Json)) : Json :=
  match done.reverse.mapM fun m => m.1.map (·, m.2) with
  | some members => closed outer (.object members)
  | none => .unreadable

/-- The first token of a value. -/
def beginValue (frames : List Frame) : Token → Option Reading
  | .scalar v => some ⟨frames, .afterValue v⟩
  | .text s => some ⟨frames, .afterValue (s.elim .unreadable .string)⟩
  | .openArray => some ⟨.elements [] :: frames, .firstElement⟩
  | .openObject => some ⟨.members [] :: frames, .firstName⟩
  | _ => none

def readStep (r : Reading) (t : Token) : Option Reading :=
  match r.expect, t, r.frames with
  | .value, t, frames => beginValue frames t
  | .firstElement, .closeArray, .elements _ :: outer =>
    some ⟨outer, .afterValue (closed outer.length (.array []))⟩
  | .firstElement, t, frames => beginValue frames t
  | .firstName, .closeObject, .members _ :: outer =>
    some ⟨outer, .afterValue (closed outer.length (.object []))⟩
  | .firstName, .text s, frames => some ⟨frames, .colon s⟩
  | .nextName, .text s, frames => some ⟨frames, .colon s⟩
  | .colon s, .colon, .members done :: outer => some ⟨.member done s :: outer, .value⟩
  | .afterValue v, .comma, .elements done :: outer => some ⟨.elements (v :: done) :: outer, .value⟩
  | .afterValue v, .comma, .member done s :: outer =>
    some ⟨.members ((s, v) :: done) :: outer, .nextName⟩
  | .afterValue v, .closeArray, .elements done :: outer =>
    some ⟨outer, .afterValue (closed outer.length (.array (v :: done).reverse))⟩
  | .afterValue v, .closeObject, .member done s :: outer =>
    some ⟨outer, .afterValue (closedObject outer.length ((s, v) :: done))⟩
  | _, _, _ => none

/-- The value that a text writes, if it writes exactly one. -/
def read? (text : String) : Option Json := do
  let tokens ← tokens? text
  let r ← tokens.foldlM readStep ⟨[], .value⟩
  match r.frames, r.expect with
  | [], .afterValue v => some v
  | _, _ => none

end Playback.Json
