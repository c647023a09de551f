/-!
# ASCII case

Comparison and search that ignore the case of ASCII letters and of no other letter.
-/

namespace RowCast.Text

/-- The text with ASCII capitals made small. -/
def lower (s : List Char) : List Char :=
  s.map Char.toLower

/-- Whether two texts differ at most in the case of ASCII letters. -/
def sameIgnoringCase (a b : List Char) : Bool :=
  lower a == lower b

/-- Whether `part` occurs somewhere in a text. -/
def occursIn (part : List Char) : List Char → Bool
  | [] => part.isEmpty
  | c :: rest => part.isPrefixOf (c :: rest) || occursIn part rest

end RowCast.Text
