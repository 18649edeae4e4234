import Playback.Url.Host

/-! Absolute URLs, kept in one normal form: scheme and domain in lower case, no port that the
scheme implies, no `.` or `..` segment, a path that is never empty where the scheme is one with a
known port, and everything that may not stand as it is percent-encoded. -/

namespace Playback

/-- An absolute URL, by its normal form. -/
structure Url where
  text : String
  deriving DecidableEq, Repr, Inhabited

namespace Url

open Text (splitOn)

/-- What a scheme says about the rest of a URL. -/
inductive SchemeKind where
  /-- A host is needed; the port is the one implied. -/
  | network (port : Nat)
  | file
  | other
  deriving DecidableEq

def SchemeKind.ofName (scheme : String) : SchemeKind :=
  match scheme with
  | "http" => .network 80
  | "ws" => .network 80
  | "https" => .network 443
  | "wss" => .network 443
  | "ftp" => .network 21
  | "file" => .file
  | _ => .other

def SchemeKind.special : SchemeKind → Bool
  | .other => false
  | _ => true

/-- A character between segments; backward slashes count where the scheme has a known port. -/
def isSlash (special : Bool) (c : Char) : Bool := c = '/' || (special && c = '\\')

/-- A character that ends an authority. -/
def endsAuthority (special : Bool) (c : Char) : Bool := isSlash special c || c = '?' || c = '#'

/-- A character that ends the path. -/
def endsPath (c : Char) : Bool := c = '?' || c = '#'

def isDot (segment : List Char) : Bool :=
  String.ofList (segment.map Char.toLower) ∈ [".", "%2e"]

def isDotDot (segment : List Char) : Bool :=
  String.ofList (segment.map Char.toLower) ∈ ["..", "%2e.", ".%2e", "%2e%2e"]

/-- A letter and a colon or a bar. -/
def isDrive : List Char → Bool
  | [c, d] => c.isAlpha && (d = ':' || d = '|')
  | _ => false

/-- A segment that is a drive up to its first backward slash. -/
def startsAsDrive (segment : List Char) : Bool := isDrive (segment.takeWhile (· ≠ '\\'))

/-- The segments so far, in reverse, without the last one. A drive stays, under every scheme. -/
def dropLast : List (List Char) → List (List Char)
  | [] => []
  | segment :: rest => if startsAsDrive segment then segment :: rest else rest

/-- A segment as it is kept: the drive that begins the path of a file is written with a colon. -/
def keptSegment (kind : SchemeKind) (first : Bool) (segment : List Char) : List Char :=
  if kind = .file ∧ first ∧ isDrive segment then segment.take 1 ++ [':']
  else percentEncode inPath segment

/-- The segments that are left when `.` and `..` are followed; a path that ends with one of them
ends with a slash. -/
def follow (kind : SchemeKind) (done : List (List Char)) : List (List Char) → List (List Char)
  | [] => done.reverse
  | [s] =>
    if isDotDot s then ([] :: dropLast done).reverse
    else if isDot s then ([] :: done).reverse
    else (keptSegment kind done.isEmpty s :: done).reverse
  | s :: rest =>
    if isDotDot s then follow kind (dropLast done) rest
    else if isDot s then follow kind done rest
    else follow kind (keptSegment kind done.isEmpty s :: done) rest

/-- Segments after a slash each. -/
def joined (segments : List (List Char)) : List Char := segments.flatMap ('/' :: ·)

/-- The path that `cs` writes, after its first slash. -/
def pathText (kind : SchemeKind) (cs : List Char) : List Char :=
  joined (follow kind [] (splitOn (isSlash kind.special) cs))

/-- The query and the fragment, each with the character that starts it. -/
def tailText (special : Bool) (cs : List Char) : List Char :=
  let (query, fragment) := cs.span (· ≠ '#')
  let query := match query with
    | [] => []
    | _ :: q => '?' :: percentEncode (inQuery special) q
  let fragment := match fragment with
    | [] => []
    | _ :: f => '#' :: percentEncode inFragment f
  query ++ fragment

/-- A user name and a password as they stand before the host. -/
def userText (cs : List Char) : List Char :=
  let (name, password) := cs.span (· ≠ ':')
  let text := percentEncode inUserInfo name ++ match password with
    | [] => []
    | [_] => []
    | _ :: p => ':' :: percentEncode inUserInfo p
  if text = [] then [] else text ++ ['@']

/-- What stands before the last `@`, and what stands after it. -/
def splitUser (cs : List Char) : Option (List Char) × List Char :=
  let (after, before) := cs.reverse.span (· ≠ '@')
  match before with
  | [] => (none, cs)
  | _ :: user => (some user.reverse, after.reverse)

/-- The host without its port, and what follows it. A colon between brackets belongs to the host. -/
def splitPort (inside : Bool) : List Char → List Char × List Char
  | [] => ([], [])
  | c :: rest =>
    if c = ':' ∧ !inside then ([], c :: rest)
    else
      let p := splitPort (if c = '[' then true else if c = ']' then false else inside) rest
      (c :: p.1, p.2)

/-- A port as it stands after the host: nothing when it is empty or implied. -/
def portText? (kind : SchemeKind) (cs : List Char) : Option (List Char) :=
  if cs.all Char.isDigit then
    let n := cs.foldl (fun n c => 10 * n + (c.toNat - '0'.toNat)) 0
    if 65535 < n then none
    else if cs = [] ∨ kind = .network n then some []
    else some (':' :: (toString n).toList)
  else none

/-- User, host and port in normal form, and what follows the port: a backward slash ends it where
no slash does. Without a host there is neither a user nor a port, and an empty user at most where
nothing follows. -/
def authority? (kind : SchemeKind) (cs : List Char) : Option (List Char × List Char) := do
  let (authority, rest) := cs.span (!endsAuthority kind.special ·)
  let (user, hostPort) := splitUser authority
  let (host, port) := splitPort false hostPort
  let (digits, left) := (port.drop 1).span Char.isDigit
  let userPart := userText (user.getD [])
  let hostPart ← if kind.special then domain? host else plainHost? host
  if hostPart = [] ∧ (userPart ≠ [] ∨ port ≠ []) then none
  else if user = some [] ∧ hostPort = [] ∧ rest ≠ [] then none
  else if left ≠ [] ∧ left.head? ≠ some '\\' then none
  else
    let portPart ← portText? kind digits
    some (userPart ++ hostPart ++ portPart, left ++ rest)

/-- The rest of a URL after its authority or, without one, after its scheme. -/
def pathOnward (kind : SchemeKind) (cs : List Char) : List Char :=
  let (path, tail) := cs.span (!endsPath ·)
  let path := match path with
    | [] => if kind.special then pathText kind [] else []
    | c :: rest => if isSlash kind.special c then pathText kind rest else pathText kind (c :: rest)
  path ++ tailText kind.special tail

/-- A URL with an authority. -/
def withAuthority? (kind : SchemeKind) (cs : List Char) : Option (List Char) := do
  let (text, rest) ← authority? kind cs
  some ('/' :: '/' :: (text ++ pathOnward kind rest))

/-- A file on `host` and what follows. A path that begins with a drive is one of this machine, and
slashes before the first segment do not count. After an authority that names no host, `done` holds
an empty segment, so a drive does not come first. -/
def fileText (host : List Char) (done : List (List Char)) (cs : List Char) : List Char :=
  let (path, tail) := cs.span (!endsPath ·)
  let path := match path with
    | c :: rest => if isSlash true c then rest else path
    | [] => []
  let segments := follow .file done (splitOn (isSlash true) path)
  let host := if segments.head?.any isDrive then [] else host
  let segments := if segments.all List.isEmpty then [[]] else segments.dropWhile List.isEmpty
  '/' :: '/' :: (host ++ joined segments ++ tailText true tail)

/-- A file: the host is left out when it is this machine, and a drive is not a host. -/
def file? (cs : List Char) : Option (List Char) :=
  match cs with
  | c :: d :: rest =>
    if isSlash true c && isSlash true d then do
      let (name, onward) := rest.span (!endsAuthority true ·)
      if isDrive name then some (fileText [] [] rest)
      else
        let host ← if name = [] then some [] else domain? name
        if host = [] ∨ host = "localhost".toList then some (fileText [] [[]] onward)
        else some (fileText host [] onward)
    else some (fileText [] [] cs)
  | _ => some (fileText [] [] cs)

/-- A URL of a scheme without a known port: with an authority, with a path, or with a text that has
no parts. -/
def other? (cs : List Char) : Option (List Char) :=
  match cs with
  | '/' :: '/' :: rest => withAuthority? .other rest
  | '/' :: _ =>
    let text := pathOnward .other cs
    match text with
    | '/' :: '/' :: _ => some ('/' :: '.' :: text)
    | _ => some text
  | _ =>
    let (path, tail) := cs.span (!endsPath ·)
    some (percentEncode isControl path ++ tailText false tail)

def isSchemeChar (c : Char) : Bool := c.isAlphanum || c = '+' || c = '-' || c = '.'

/-- Blanks and control characters at both ends do not count, and tabs and line ends nowhere. -/
def trimmed (cs : List Char) : List Char :=
  let blank := fun (c : Char) => c.toNat ≤ 0x20
  (((cs.dropWhile blank).reverse.dropWhile blank).reverse).filter fun c =>
    c ≠ '\t' ∧ c ≠ '\n' ∧ c ≠ '\r'

/-- The URL that a text writes; a text without a scheme writes none. -/
def parse? (text : String) : Option Url := do
  let (scheme, rest) := (trimmed text.toList).span isSchemeChar
  match scheme, rest with
  | first :: _, ':' :: rest =>
    if first.isAlpha then
      let name := String.ofList (scheme.map Char.toLower)
      let kind := SchemeKind.ofName name
      let body ← match kind with
        | .network _ => withAuthority? kind (rest.dropWhile (isSlash true))
        | .file => file? rest
        | .other => other? rest
      some ⟨name ++ ":" ++ String.ofList body⟩
    else none
  | _, _ => none

end Url

end Playback
