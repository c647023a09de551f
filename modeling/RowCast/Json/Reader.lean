import RowCast.Json.Number
import RowCast.Text.Hex

/-!
# Reading JSON text

JSON text as a tree. The grammar is the strict one; a text that follows it may still have parts that
no value stands for, which the tree marks as unreadable.
-/

namespace RowCast.Json

/-- The blanks of JSON. -/
def isSpace (c : Char) : Bool :=
  c == ' ' || c == '\t' || c == '\n' || c == '\r'

/-- Pass over blanks. -/
def skipSpaces (s : List Char) : List Char :=
  s.dropWhile isSpace

/-- Read four hexadecimal digits. -/
def readUnit : List Char → Option (Nat × List Char)
  | a :: b :: c :: d :: rest => do
    let a ← Text.hexValue? a
    let b ← Text.hexValue? b
    let c ← Text.hexValue? c
    let d ← Text.hexValue? d
    some (((a * 16 + b) * 16 + c) * 16 + d, rest)
  | _ => none

/-- The character behind a backslash, other than a numbered one. -/
def escaped? : Char → Option Char
  | '\x22' => some '\x22'
  | '\\' => some '\\'
  | '/' => some '/'
  | 'b' => some '\x08'
  | 'f' => some '\x0c'
  | 'n' => some '\n'
  | 'r' => some '\r'
  | 't' => some '\t'
  | _ => none

/-- Whether a UTF-16 unit opens a pair. -/
def isLeading (unit : Nat) : Bool :=
  decide (0xd800 ≤ unit) && decide (unit < 0xdc00)

/-- Whether a UTF-16 unit closes a pair. -/
def isTrailing (unit : Nat) : Bool :=
  decide (0xdc00 ≤ unit) && decide (unit < 0xe000)

/-- One element of a string: a character as it stands or escaped, or half a pair of units. -/
inductive StringItem where
  | char (c : Char)
  | unit (n : Nat)
  deriving DecidableEq

/-- Read the elements of a string up to its closing quote; the fuel is the length of the text. -/
def readItems : Nat → List Char → Option (List StringItem × List Char)
  | 0, _ => none
  | _ + 1, [] => none
  | _ + 1, '\x22' :: rest => some ([], rest)
  | fuel + 1, '\\' :: 'u' :: more => do
    let (n, rest) ← readUnit more
    let (items, rest) ← readItems fuel rest
    let item := if isLeading n || isTrailing n then .unit n else .char (Char.ofNat n)
    some (item :: items, rest)
  | fuel + 1, '\\' :: c :: more => do
    let c ← escaped? c
    let (items, rest) ← readItems fuel more
    some (.char c :: items, rest)
  | fuel + 1, c :: more =>
    if c = '\\' ∨ c.toNat < 32 then none else do
      let (items, rest) ← readItems fuel more
      some (.char c :: items, rest)

/-- Join pairs of units to characters; a unit outside a pair stands for nothing. -/
def joinUnits : List StringItem → Option (List Char)
  | [] => some []
  | .char c :: rest => (joinUnits rest).map (c :: ·)
  | .unit lead :: .unit trail :: rest =>
    if isLeading lead && isTrailing trail then
      (joinUnits rest).map
        (Char.ofNat (0x10000 + (lead - 0xd800) * 0x400 + (trail - 0xdc00)) :: ·)
    else none
  | .unit _ :: _ => none

/-- Read a string behind its opening quote; `none` inside marks an unreadable one. -/
def readString (s : List Char) : Option (Option String × List Char) := do
  let (items, rest) ← readItems (s.length + 1) s
  some ((joinUnits items).map String.ofList, rest)

/-- Read a fixed word. -/
def readWord (word : List Char) (value : Json) (s : List Char) : Option (Json × List Char) :=
  if word.isPrefixOf s then some (value, s.drop word.length) else none

/-- The object of entries whose keys may be unreadable. -/
def ofEntries (entries : List (Option String × Json)) : Json :=
  if entries.all fun e => e.1.isSome then
    object (entries.filterMap fun e => e.1.map fun key => (key, e.2))
  else unreadable

mutual

/-- Read a value behind blanks. -/
def readValue : Nat → List Char → Option (Json × List Char)
  | 0, _ => none
  | fuel + 1, s =>
    match skipSpaces s with
    | '\x22' :: rest =>
      (readString rest).map fun (text, rest) =>
        (match text with
          | some text => string text
          | none => unreadable, rest)
    | '[' :: rest =>
      match skipSpaces rest with
      | ']' :: rest => some (array [], rest)
      | rest => (readArray fuel rest).map fun (items, rest) => (array items, rest)
    | '\x7b' :: rest =>
      match skipSpaces rest with
      | '\x7d' :: rest => some (object [], rest)
      | rest => (readObject fuel rest).map fun (entries, rest) => (ofEntries entries, rest)
    | 'n' :: rest => readWord ['n', 'u', 'l', 'l'] null ('n' :: rest)
    | 't' :: rest => readWord ['t', 'r', 'u', 'e'] (bool true) ('t' :: rest)
    | 'f' :: rest => readWord ['f', 'a', 'l', 's', 'e'] (bool false) ('f' :: rest)
    | s => (readNumberText s).map fun (t, rest) => (ofNumberText t, rest)

/-- Read the items of an array, of which there is one more, up to its closing bracket. -/
def readArray : Nat → List Char → Option (List Json × List Char)
  | 0, _ => none
  | fuel + 1, s =>
    match readValue fuel s with
    | none => none
    | some (item, rest) =>
      match skipSpaces rest with
      | ']' :: rest => some ([item], rest)
      | ',' :: rest => (readArray fuel rest).map fun (items, rest) => (item :: items, rest)
      | _ => none

/-- Read the entries of an object, of which there is one more, up to its closing brace. -/
def readObject : Nat → List Char → Option (List (Option String × Json) × List Char)
  | 0, _ => none
  | fuel + 1, s =>
    match skipSpaces s with
    | '\x22' :: rest =>
      match readString rest with
      | none => none
      | some (key, rest) =>
        match skipSpaces rest with
        | ':' :: rest =>
          match readValue fuel rest with
          | none => none
          | some (value, rest) =>
            match skipSpaces rest with
            | '\x7d' :: rest => some ([(key, value)], rest)
            | ',' :: rest =>
              (readObject fuel rest).map fun (entries, rest) => ((key, value) :: entries, rest)
            | _ => none
        | _ => none
    | _ => none

end

/-- Read a text that holds one value and blanks around it. -/
def ofText? (text : String) : Option Json :=
  match readValue (2 * text.length + 2) text.toList with
  | some (value, rest) => if skipSpaces rest = [] then some value else none
  | none => none

end RowCast.Json
