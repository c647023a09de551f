import RowCast.Text.Extending
import RowCast.Text.Hex
import RowCast.Text.Unprintable

/-!
# Quoted text

Text in double quotes for messages, where every character that a reader could not see is written
out.
-/

namespace RowCast.Text

/-- One character of a quoted text. -/
def quotedChar (c : Char) : List Char :=
  match c with
  | '\x00' => ['\\', '0']
  | '\t' => ['\\', 't']
  | '\r' => ['\\', 'r']
  | '\n' => ['\\', 'n']
  | '\x22' => ['\\', '\x22']
  | '\\' => ['\\', '\\']
  | c =>
    if isExtending c || isUnprintable c then
      ['\\', 'u', '\x7b'] ++ hexText c.toNat ++ ['\x7d']
    else [c]

/-- A text in double quotes. -/
def quoted (s : List Char) : List Char :=
  '\x22' :: s.flatMap quotedChar ++ ['\x22']

end RowCast.Text
