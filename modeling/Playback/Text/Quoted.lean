import Playback.Text.CharClass

/-! A text between quotation marks in which every character can be seen: marks and controls are
written as escapes, and so is what shows nothing or joins the character before it. -/

namespace Playback.Text

/-- The escape of a character by its code point. -/
def codeEscape (c : Char) : List Char :=
  ['\\', 'u', '\x7b'] ++ Nat.toDigits 16 c.toNat ++ ['\x7d']

def visible (c : Char) : List Char :=
  match c with
  | '\x22' => ['\\', '\x22']
  | '\\' => ['\\', '\\']
  | '\n' => ['\\', 'n']
  | '\r' => ['\\', 'r']
  | '\t' => ['\\', 't']
  | '\x00' => ['\\', '0']
  | c =>
    if c.toNat < 0x20 ∨ c.toNat = 0x7F then codeEscape c
    else if c.toNat < 0x80 then [c]
    else if isHidden c then codeEscape c
    else [c]

def quoted (s : String) : String :=
  String.ofList ('\x22' :: (s.toList.flatMap visible ++ ['\x22']))

end Playback.Text
