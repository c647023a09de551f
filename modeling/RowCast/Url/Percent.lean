import RowCast.Text.Hex

/-!
# Percent-encoding

Characters written as the hexadecimal numbers of their UTF-8 bytes, and back to bytes.
-/

namespace RowCast.Url

/-- Whether a character is a control or beyond ASCII; such characters are always encoded. -/
def inControlSet (c : Char) : Bool :=
  c.toNat < 32 || 126 < c.toNat

/-- The characters encoded in a fragment. -/
def inFragmentSet (c : Char) : Bool :=
  inControlSet c || [' ', '\x22', '<', '>', '\x60'].contains c

/-- The characters encoded in a path. -/
def inPathSet (c : Char) : Bool :=
  inFragmentSet c || ['#', '?', '\x7b', '\x7d'].contains c

/-- The characters encoded in names and passwords. -/
def inUserSet (c : Char) : Bool :=
  inPathSet c || ['/', ':', ';', '=', '@', '[', '\\', ']', '^', '|'].contains c

/-- The characters encoded in a query. -/
def inQuerySet (c : Char) : Bool :=
  inControlSet c || [' ', '\x22', '#', '<', '>'].contains c

/-- The characters encoded in a query of a special scheme. -/
def inSpecialQuerySet (c : Char) : Bool :=
  inQuerySet c || c == '\x27'

/-- A byte as `%` and two hexadecimal digits, with capital letters. -/
def encodeByte (b : UInt8) : List Char :=
  ['%', (Text.hexDigit (b.toNat / 16)).toUpper, (Text.hexDigit (b.toNat % 16)).toUpper]

/-- A text with the characters of a set encoded. -/
def percentEncode (inSet : Char → Bool) (s : List Char) : List Char :=
  s.flatMap fun c => if inSet c then (String.utf8EncodeChar c).flatMap encodeByte else [c]

/--
The text with `%` and two digits replaced by the character of that code, if that is below 128.
-/
def percentDecodeAscii : List Char → List Char
  | '%' :: a :: b :: rest =>
    match Text.hexValue? a, Text.hexValue? b with
    | some x, some y =>
      (if x < 8 then Char.ofNat (x * 16 + y) else '\ufffd') :: percentDecodeAscii rest
    | _, _ => '%' :: percentDecodeAscii (a :: b :: rest)
  | c :: rest => c :: percentDecodeAscii rest
  | [] => []

end RowCast.Url
