import Playback.Text.CharClass
import Playback.Url.Domain.Direction
import Playback.Url.Domain.Folding
import Playback.Url.Domain.Joining
import Playback.Url.Punycode

/-! Domain names in ASCII. The characters are put in one form, the labels between the dots are
looked at one by one, and a label with a character outside ASCII is written in ASCII after `xn--`.
A label that comes in that writing has to be one that would be written so. -/

namespace Playback.Url

open Text

/-- A label that is not in ASCII may stand in a domain. -/
def isSound (label : List Char) : Bool :=
  !label.head?.any isMark && joinersFit [] label && label.length ≤ 1000

/-- The characters of a label, of one written in ASCII those that it stands for. -/
def label? (label : List Char) : Option (List Char) :=
  match label with
  | 'x' :: 'n' :: '-' :: '-' :: text =>
    if text.length ≤ 2000 then
      (ofPunycode? text).filter fun l => l.all isSettled && composed l = l && isSound l
    else none
  | _ => if label.all isAscii || isSound label then some label else none

/-- A label of a domain in ASCII. -/
def asciiLabel (label : List Char) : List Char :=
  if label.all isAscii then label else "xn--".toList ++ punycode label

/-- A domain name in ASCII, in lower case. -/
def asciiDomain? (name : List Char) : Option (List Char) := do
  let folded ← name.mapM folded?
  let labels ← (splitOn (· = '.') (composed folded.flatten)).mapM label?
  let directions := labels.map (·.map direction)
  if directions.any (·.any Direction.isRightward) && !directions.all readsOneWay then none
  else some (['.'].intercalate (labels.map asciiLabel))

end Playback.Url
