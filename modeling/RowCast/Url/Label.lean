import RowCast.Text.Composition
import RowCast.Text.Direction
import RowCast.Text.Joining
import RowCast.Url.Address
import RowCast.Url.LabelCharacter
import RowCast.Url.Punycode

/-!
# Labels of hosts

The parts of a host between dots. A label behind `xn--` stands for a text with characters beyond
ASCII, and such a text has to be one that a host may be written in.
-/

namespace RowCast.Url

/-- Whether a text beyond ASCII may be a label, whatever the other labels are. -/
def isAllowedLabel (label : List Char) : Bool :=
  label.length ≤ 1000 && label.all isLabelChar && Text.composed label == label &&
    !label.head?.any Text.isMark && Text.joinersFit [] label

/--
The characters that a label stands for. Behind `xn--` there is a code with at least one character
beyond ASCII in it, so that it does not end in a hyphen.
-/
def decodeLabel? : List Char → Option (List Char)
  | 'x' :: 'n' :: '-' :: '-' :: code => do
    if code = [] ∨ code.getLast? = some '-' ∨ 2000 < code.length then none
    let label ← Punycode.decode? code
    if isAllowedLabel label then some label else none
  | label => some label

/-- Whether a character makes its host one that is written from the right in part. -/
def runsRight (c : Char) : Bool :=
  Text.direction c == .right || Text.direction c == .arabicNumber

/--
Whether the characters of a label keep together when it is written beside labels that run the other
way: it begins with a letter, has letters of that direction only, ends in one of them or in a digit,
and has no two kinds of digits where it runs from the right.
-/
def keepsDirection (label : List Char) : Bool :=
  let directions := label.map Text.direction
  let last := (directions.reverse.dropWhile (· == .nonspacing)).head?
  match directions with
  | [] => true
  | .left :: _ =>
    directions.all (fun d => d != .right && d != .arabicNumber) &&
      (last == some .left || last == some .europeanNumber)
  | .right :: _ =>
    directions.all (· != .left) && last != some .neutral &&
      !(directions.contains .europeanNumber && directions.contains .arabicNumber)
  | _ => false

/-- Whether the labels of a host in small letters may stand together. -/
def areAllowedLabels (host : List Char) : Bool :=
  match (splitDots host).mapM decodeLabel? with
  | none => false
  | some labels => !labels.any (·.any runsRight) || labels.all keepsDirection

end RowCast.Url
