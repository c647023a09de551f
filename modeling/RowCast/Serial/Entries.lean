import RowCast.Json.Tree

/-!
# Entries of serialized structures

How the fields of a structure are found in a JSON object: a key may be missing, may not be repeated,
and other keys do not matter.
-/

namespace RowCast.Serial

/-- The values at a key, in order. -/
def valuesAt (key : String) (entries : List (String × Json)) : List Json :=
  (entries.filter fun e => e.1 == key).map (·.2)

/-- The value at a key, if there is one; fails on a repeated key. -/
def find? (key : String) (entries : List (String × Json)) : Option (Option Json) :=
  match valuesAt key entries with
  | [] => some none
  | [value] => some (some value)
  | _ => none

/-- Decode the value at a key that must be there once. -/
def required {α : Type} (key : String) (decode : Json → Option α) (entries : List (String × Json)) :
    Option α :=
  (find? key entries).bind fun found => found.bind decode

/-- Decode the value at a key that may be missing. -/
def optional {α : Type} (key : String) (decode : Json → Option α) (missing : α)
    (entries : List (String × Json)) : Option α :=
  (find? key entries).bind fun found =>
    match found with
    | some value => decode value
    | none => some missing

/-- Decode a truth value. -/
def decodeBool : Json → Option Bool
  | .bool b => some b
  | _ => none

/-- Decode a text. -/
def decodeString : Json → Option String
  | .string s => some s
  | _ => none

/-- Decode an integer between two bounds; a number with a point or an exponent is none. -/
def decodeInt (least greatest : Int) : Json → Option Int
  | .int n => if least ≤ n ∧ n ≤ greatest then some n else none
  | _ => none

end RowCast.Serial
