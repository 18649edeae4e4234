/-! Cutting a text at the characters that separate its parts. -/

namespace Playback.Text

/-- The parts of a text between the characters that satisfy `p`; there is always one. -/
def splitOn (p : Char → Bool) (cs : List Char) : List (List Char) :=
  cs.foldr
    (fun c parts =>
      if p c then [] :: parts
      else match parts with
        | [] => [[c]]
        | part :: rest => (c :: part) :: rest)
    [[]]

/-- The parts of a text between blanks and line ends, without the empty ones. -/
def words (text : String) : List (List Char) :=
  (splitOn (fun c => c = ' ' || c = '\n') text.toList).filter (· ≠ [])

end Playback.Text
