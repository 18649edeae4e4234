/-! Texts of a given width, and lines. A width counts code points, and nothing is ever cut. -/

namespace Playback.Text

/-- `s` with spaces after it up to `width`. -/
def padEnd (width : Nat) (s : String) : String :=
  s ++ String.ofList (List.replicate (width - s.length) ' ')

/-- `n` in decimal with zeros before it up to `width`. -/
def padZeros (width n : Nat) : String :=
  String.ofList (List.replicate (width - (toString n).length) '0') ++ toString n

/-- The lines of a text. -/
def lines (s : String) : List String :=
  (s.toList.foldr
    (fun c parts =>
      if c = '\n' then [] :: parts
      else match parts with
        | [] => [[c]]
        | part :: rest => (c :: part) :: rest)
    [[]]).map String.ofList

end Playback.Text
