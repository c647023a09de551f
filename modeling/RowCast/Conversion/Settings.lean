import RowCast.Error
import RowCast.Serial.Entries

/-!
# Settings

The settings of a converter, their serialized form and what makes them acceptable.
-/

namespace RowCast

open scoped CorePowers

/-- What happens to a schema when the default of a column is no literal of its type. -/
inductive DefaultPolicy where
  /-- The schema is not built. -/
  | fail
  /-- The field goes without a default. -/
  | ignore
  deriving DecidableEq, Repr

namespace DefaultPolicy

/-- The name of a policy in serialized form. -/
def serialName : DefaultPolicy → String
  | fail => "fail"
  | ignore => "ignore"

/-- The policy of a name. -/
def ofName? (name : String) : Option DefaultPolicy :=
  if name = "fail" then some fail else if name = "ignore" then some ignore else none

/-- Decode a policy: its name, or an object with the name as the only key and null as its value. -/
def decode : Json → Option DefaultPolicy
  | .string name => ofName? name
  | .object [(name, .null)] => ofName? name
  | _ => none

end DefaultPolicy

/-- The settings of a converter. -/
structure Settings where
  /-- Collapse narrow exact numerics without fractional digits to integers. -/
  mapNumerics : Bool
  /-- The greatest length of a large object that is read, in bytes or characters. -/
  maxLobLength : UInt64
  defaultPolicy : DefaultPolicy
  deriving DecidableEq, Repr

namespace Settings

/-- The settings that hold where nothing else is said. -/
def standard : Settings :=
  ⟨false, 2147483647, .fail⟩

/-- Check that the settings are allowed: large objects of some length must be readable. -/
def check (settings : Settings) : Except Error Unit :=
  if settings.maxLobLength = 0 then
    .error (.configuration "max_lob_length must be greater than 0")
  else .ok ()

/-- The serialized form of the settings. -/
def encode (settings : Settings) : Json :=
  .object
    [("map_numerics", .bool settings.mapNumerics),
      ("max_lob_length", .int settings.maxLobLength.toNat),
      ("default_parse_policy", .string settings.defaultPolicy.serialName)]

/-- Decode a length of 64 bits. -/
def decodeLength (j : Json) : Option UInt64 :=
  (Serial.decodeInt 0 (2 ^ (64 : Nat) - 1) j).map fun n => UInt64.ofNat n.toNat

/-- Decode settings from an array; those that are missing at its end keep their standard. -/
def decodeItems : List Json → Option Settings
  | [] => some standard
  | [mapNumerics] => do
    let mapNumerics ← Serial.decodeBool mapNumerics
    some { standard with mapNumerics }
  | [mapNumerics, maxLobLength] => do
    let mapNumerics ← Serial.decodeBool mapNumerics
    let maxLobLength ← decodeLength maxLobLength
    some { standard with mapNumerics, maxLobLength }
  | [mapNumerics, maxLobLength, policy] => do
    let mapNumerics ← Serial.decodeBool mapNumerics
    let maxLobLength ← decodeLength maxLobLength
    let defaultPolicy ← DefaultPolicy.decode policy
    some ⟨mapNumerics, maxLobLength, defaultPolicy⟩
  | _ => none

/-- Decode settings from an object or an array; those that are missing keep their standard. -/
def decode : Json → Option Settings
  | .object entries => do
    let mapNumerics ← Serial.optional "map_numerics" Serial.decodeBool standard.mapNumerics entries
    let maxLobLength ← Serial.optional "max_lob_length" decodeLength standard.maxLobLength entries
    let defaultPolicy ←
      Serial.optional "default_parse_policy" DefaultPolicy.decode standard.defaultPolicy entries
    some ⟨mapNumerics, maxLobLength, defaultPolicy⟩
  | .array items => decodeItems items
  | _ => none

end Settings

end RowCast
