import RowCast.Binary.Number

/-!
# JSON trees

JSON values with the entries of objects in order, repeated keys included.
-/

namespace RowCast

/-- A JSON value. -/
inductive Json where
  | null
  | bool (b : Bool)
  | int (n : Int)
  | float (x : Binary64)
  | string (s : String)
  | array (items : List Json)
  | object (entries : List (String × Json))
  /-- Well-formed text that no value stands for, such as a number beyond every range. -/
  | unreadable

namespace Json

/-- A number of 64 bits as JSON, which has no form for infinities and for what is no number. -/
def ofFloat (x : Binary64) : Json :=
  if x.isFinite then float x else null

mutual

/-- The number of arrays and objects around the deepest part of a value. -/
def depth : Json → Nat
  | array items => depthOfItems items + 1
  | object entries => depthOfEntries entries + 1
  | _ => 0

/-- The greatest depth among the items of an array. -/
def depthOfItems : List Json → Nat
  | [] => 0
  | item :: rest => max item.depth (depthOfItems rest)

/-- The greatest depth among the entries of an object. -/
def depthOfEntries : List (String × Json) → Nat
  | [] => 0
  | (_, value) :: rest => max value.depth (depthOfEntries rest)

end

mutual

/-- Whether a value has no unreadable part. -/
def isReadable : Json → Bool
  | array items => areReadable items
  | object entries => areReadableEntries entries
  | unreadable => false
  | _ => true

/-- Whether no item of an array has an unreadable part. -/
def areReadable : List Json → Bool
  | [] => true
  | item :: rest => item.isReadable && areReadable rest

/-- Whether no entry of an object has an unreadable part. -/
def areReadableEntries : List (String × Json) → Bool
  | [] => true
  | (_, value) :: rest => value.isReadable && areReadableEntries rest

end

end Json

end RowCast
