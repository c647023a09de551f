import Mathlib.Algebra.Group.Int.Defs
import RowCast.Conversion.Converter

/-!
# Settings are read from their own entries

Of the entries of an object only those at the keys of settings matter, in whatever order they come.
Each of these keys may be there once. Its value is decoded by itself, and where it is missing the
setting keeps its standard. An entry that is repeated, or whose value is of another kind, makes the
whole unreadable.

The entries may also be read one after the other, with the settings found so far at hand. That comes
to the same, although it does not wait to see whether a key is repeated.
-/

namespace RowCast

namespace Serial

variable {α : Type} {key : String} {decode : Json → Option α} {missing : α}
  {entries : List (String × Json)}

/-- How often a key occurs among entries. -/
def occurrences (key : String) (entries : List (String × Json)) : Nat :=
  (entries.map (·.1)).count key

/--
What entries say of a setting: what the value at its key decodes to or, where the key is missing,
what holds then.
-/
def Says (key : String) (decode : Json → Option α) (missing : α) (entries : List (String × Json))
    (a : α) : Prop :=
  (∃ value, (key, value) ∈ entries ∧ decode value = some a) ∨
    (∀ value, (key, value) ∉ entries) ∧ a = missing

/-- The values at a key are those of the entries with this key. -/
theorem mem_valuesAt_iff {value : Json} :
    value ∈ valuesAt key entries ↔ (key, value) ∈ entries := by
  simp [valuesAt]

/-- There are as many values at a key as the key occurs. -/
theorem length_valuesAt (key : String) (entries : List (String × Json)) :
    (valuesAt key entries).length = occurrences key entries := by
  rw [valuesAt, occurrences, List.length_map, ← List.countP_eq_length_filter, List.count,
    List.countP_map]
  rfl

/-- A setting is decoded from the values at its key alone. -/
theorem optional_eq (key : String) (decode : Json → Option α) (missing : α)
    (entries : List (String × Json)) :
    optional key decode missing entries =
      match valuesAt key entries with
      | [] => some missing
      | [value] => decode value
      | _ => none := by
  unfold optional find?
  rcases valuesAt key entries with _ | ⟨value, _ | ⟨other, rest⟩⟩ <;> rfl

/-- A setting whose key is repeated cannot be decoded. -/
theorem optional_of_repeated (h : 1 < occurrences key entries) :
    optional key decode missing entries = none := by
  rw [← length_valuesAt] at h
  rw [optional_eq]
  rcases hvalues : valuesAt key entries with _ | ⟨value, _ | ⟨other, rest⟩⟩
  · simp [hvalues] at h
  · simp [hvalues] at h
  · rfl

/-- A setting whose key is not repeated is decoded to what the entries say of it. -/
theorem optional_eq_some_iff (h : occurrences key entries ≤ 1) {a : α} :
    optional key decode missing entries = some a ↔ Says key decode missing entries a := by
  rw [← length_valuesAt] at h
  rw [optional_eq]
  simp only [Says, ← mem_valuesAt_iff]
  rcases hvalues : valuesAt key entries with _ | ⟨value, _ | ⟨other, rest⟩⟩
  · simp [eq_comm]
  · simp
  · simp [hvalues] at h

/-- A setting can be decoded exactly if the value at its key can, where there is one. -/
theorem exists_says_iff (missing : α) (h : occurrences key entries ≤ 1) :
    (∃ a, Says key decode missing entries a) ↔
      ∀ value, (key, value) ∈ entries → ∃ a, decode value = some a := by
  rw [← length_valuesAt] at h
  simp only [Says, ← mem_valuesAt_iff]
  rcases hvalues : valuesAt key entries with _ | ⟨value, _ | ⟨other, rest⟩⟩
  · simp
  · simp
  · simp [hvalues] at h

/-- Entries with the same values at a key say the same of its setting. -/
theorem says_congr {others : List (String × Json)}
    (h : ∀ value, (key, value) ∈ entries ↔ (key, value) ∈ others) {a : α} :
    Says key decode missing entries a ↔ Says key decode missing others a := by
  simp only [Says, h]

/--
Read one more entry for a setting of which a value may have been found. An entry at another key
changes nothing; a second value is one too many.
-/
def readSlot (key : String) (decode : Json → Option α) (found : Option α)
    (entry : String × Json) : Option (Option α) :=
  if entry.1 = key then
    match found with
    | none => (decode entry.2).map some
    | some _ => none
  else some found

/-- An entry at another key changes nothing for a setting. -/
theorem readSlot_of_ne {entry : String × Json} (h : entry.1 ≠ key) (found : Option α) :
    readSlot key decode found entry = some found :=
  if_neg h

/-- Read entries one after the other for a setting. -/
def readSlots (key : String) (decode : Json → Option α) (found : Option α)
    (entries : List (String × Json)) : Option (Option α) :=
  entries.foldlM (readSlot key decode) found

/-- Values at a key are found behind those of the first entry. -/
theorem valuesAt_cons (key : String) (entry : String × Json) (rest : List (String × Json)) :
    valuesAt key (entry :: rest) =
      if entry.1 = key then entry.2 :: valuesAt key rest else valuesAt key rest := by
  unfold valuesAt
  by_cases h : entry.1 = key <;> simp [h]

/-- Once a value is found, the entries must have none at the key. -/
theorem readSlots_found (a : α) (entries : List (String × Json)) :
    readSlots key decode (some a) entries =
      if valuesAt key entries = [] then some (some a) else none := by
  induction entries with
  | nil => rfl
  | cons entry rest ih =>
    rw [readSlots, List.foldlM_cons, valuesAt_cons]
    by_cases h : entry.1 = key
    · simp [readSlot, h]
    · simp only [readSlot, h, if_false]
      exact ih

/-- Until a value is found, the entries may have one at the key. -/
theorem readSlots_missing (entries : List (String × Json)) :
    readSlots key decode none entries =
      match valuesAt key entries with
      | [] => some none
      | [value] => (decode value).map some
      | _ => none := by
  induction entries with
  | nil => rfl
  | cons entry rest ih =>
    rw [readSlots, List.foldlM_cons, valuesAt_cons]
    by_cases h : entry.1 = key
    · simp only [readSlot, h, if_true]
      cases hdecode : decode entry.2 with
      | none => rcases valuesAt key rest with _ | ⟨other, more⟩ <;> simp [hdecode]
      | some a =>
        change readSlots key decode (some a) rest = _
        rw [readSlots_found]
        rcases valuesAt key rest with _ | ⟨other, more⟩ <;> simp [hdecode]
    · simp only [readSlot, h, if_false]
      exact ih

/-- Reading entries one after the other finds what is decoded from the values at the key. -/
theorem map_readSlots (key : String) (decode : Json → Option α) (missing : α)
    (entries : List (String × Json)) :
    (readSlots key decode none entries).map (·.getD missing) =
      optional key decode missing entries := by
  rw [readSlots_missing, optional_eq]
  rcases valuesAt key entries with _ | ⟨value, _ | ⟨other, rest⟩⟩
  · rfl
  · cases h : decode value <;> simp [h]
  · rfl

/-- A truth value is decoded exactly from itself. -/
theorem decodeBool_eq_some_iff {j : Json} {b : Bool} : decodeBool j = some b ↔ j = .bool b := by
  cases j <;> simp [decodeBool]

end Serial

namespace DefaultPolicy

/-- A name stands for the policy that it names. -/
theorem ofName?_eq_some_iff {name : String} {policy : DefaultPolicy} :
    ofName? name = some policy ↔ name = policy.serialName := by
  unfold ofName?
  split
  · next hfail => cases policy <;> simp [hfail, serialName]
  · next hfail =>
    split
    · next hignore => cases policy <;> simp [hignore, serialName]
    · next hignore => cases policy <;> simp [hfail, hignore, serialName]

/-- A policy is decoded exactly from its name, alone or as the only key with null behind it. -/
theorem decode_eq_some_iff {j : Json} {policy : DefaultPolicy} :
    decode j = some policy ↔
      j = .string policy.serialName ∨ j = .object [(policy.serialName, .null)] := by
  unfold decode
  split
  · next name => simp [ofName?_eq_some_iff]
  · next name => simp [ofName?_eq_some_iff]
  · next hstring hobject =>
    constructor
    · intro h
      cases h
    · rintro (rfl | rfl)
      · exact absurd rfl (hstring _)
      · exact absurd rfl (hobject _)

end DefaultPolicy

namespace Settings

/-- A length is decoded exactly from an integer that is this length. -/
theorem decodeLength_eq_some_iff {j : Json} {n : UInt64} :
    decodeLength j = some n ↔ j = .int n.toNat := by
  have hn := n.toNat_lt
  constructor
  · intro h
    obtain ⟨k, hk, rfl⟩ := Option.map_eq_some_iff.mp h
    unfold Serial.decodeInt at hk
    split at hk
    · next m =>
      split at hk
      · next hbounds =>
        cases hk
        have hsize : k.toNat < 2 ^ 64 := by omega
        rw [UInt64.toNat_ofNat', Nat.mod_eq_of_lt hsize, Int.toNat_of_nonneg hbounds.1]
      · cases hk
    · cases hk
  · rintro rfl
    have hread : Serial.decodeInt 0 (2 ^ 64 - 1) (.int n.toNat) = some (n.toNat : Int) :=
      if_pos (by omega)
    rw [decodeLength, hread, Option.map_some, Int.toNat_natCast, UInt64.ofNat_toNat]

/-- The keys of settings in an object. -/
def keys : List String :=
  ["map_numerics", "max_lob_length", "default_parse_policy"]

/-- What entries say of all settings. -/
structure SaidBy (entries : List (String × Json)) (settings : Settings) : Prop where
  mapNumerics : Serial.Says "map_numerics" Serial.decodeBool standard.mapNumerics entries
    settings.mapNumerics
  maxLobLength : Serial.Says "max_lob_length" decodeLength standard.maxLobLength entries
    settings.maxLobLength
  defaultPolicy : Serial.Says "default_parse_policy" DefaultPolicy.decode standard.defaultPolicy
    entries settings.defaultPolicy

/-- The settings that have been found among the entries read so far. -/
structure Found where
  mapNumerics : Option Bool
  maxLobLength : Option UInt64
  defaultPolicy : Option DefaultPolicy

namespace Found

/-- Nothing has been found yet. -/
def nothing : Found := ⟨none, none, none⟩

/-- Read one more entry: for the setting that its key names, or for none. -/
def read (found : Found) (entry : String × Json) : Option Found :=
  if entry.1 = "map_numerics" then
    (Serial.readSlot "map_numerics" Serial.decodeBool found.mapNumerics entry).map fun b =>
      { found with mapNumerics := b }
  else if entry.1 = "max_lob_length" then
    (Serial.readSlot "max_lob_length" decodeLength found.maxLobLength entry).map fun n =>
      { found with maxLobLength := n }
  else if entry.1 = "default_parse_policy" then
    (Serial.readSlot "default_parse_policy" DefaultPolicy.decode found.defaultPolicy entry).map
      fun p => { found with defaultPolicy := p }
  else some found

/-- Read entries one after the other, up to the first that cannot be read. -/
def readAll (found : Found) (entries : List (String × Json)) : Option Found :=
  entries.foldlM read found

/-- The settings, those that were not found by their standard. -/
def settings (found : Found) : Settings :=
  ⟨found.mapNumerics.getD standard.mapNumerics, found.maxLobLength.getD standard.maxLobLength,
    found.defaultPolicy.getD standard.defaultPolicy⟩

/-- An entry is read for each setting apart: it is at another key for two of the three. -/
theorem read_eq_some_iff {found next : Found} {entry : String × Json} :
    found.read entry = some next ↔
      Serial.readSlot "map_numerics" Serial.decodeBool found.mapNumerics entry =
          some next.mapNumerics ∧
        Serial.readSlot "max_lob_length" decodeLength found.maxLobLength entry =
          some next.maxLobLength ∧
        Serial.readSlot "default_parse_policy" DefaultPolicy.decode found.defaultPolicy entry =
          some next.defaultPolicy := by
  obtain ⟨b, n, p⟩ := found
  obtain ⟨b', n', p'⟩ := next
  -- One case for each key: the other two slots are passed by, and the record keeps what they have.
  unfold read
  split
  · next hkey =>
    have hlength : entry.1 ≠ "max_lob_length" := by simp [hkey]
    have hpolicy : entry.1 ≠ "default_parse_policy" := by simp [hkey]
    rw [Serial.readSlot_of_ne hlength, Serial.readSlot_of_ne hpolicy, Option.map_eq_some_iff]
    grind
  · split
    · next hflag hkey =>
      have hpolicy : entry.1 ≠ "default_parse_policy" := by simp [hkey]
      rw [Serial.readSlot_of_ne hflag, Serial.readSlot_of_ne hpolicy, Option.map_eq_some_iff]
      grind
    · split
      · next hflag hlength hkey =>
        rw [Serial.readSlot_of_ne hflag, Serial.readSlot_of_ne hlength, Option.map_eq_some_iff]
        grind
      · next hflag hlength hpolicy =>
        simp [Serial.readSlot_of_ne hflag, Serial.readSlot_of_ne hlength,
          Serial.readSlot_of_ne hpolicy]

/-- Entries are read for each setting apart. -/
theorem readAll_eq_some_iff {found last : Found} {entries : List (String × Json)} :
    found.readAll entries = some last ↔
      Serial.readSlots "map_numerics" Serial.decodeBool found.mapNumerics entries =
          some last.mapNumerics ∧
        Serial.readSlots "max_lob_length" decodeLength found.maxLobLength entries =
          some last.maxLobLength ∧
        Serial.readSlots "default_parse_policy" DefaultPolicy.decode found.defaultPolicy entries =
          some last.defaultPolicy := by
  -- What was found among the entries so far changes with each of them, so it is generalized.
  induction entries generalizing found with
  | nil =>
    obtain ⟨b, n, p⟩ := found
    obtain ⟨b', n', p'⟩ := last
    simp [readAll, Serial.readSlots]
  | cons entry rest ih =>
    have hstep : found.readAll (entry :: rest) = some last ↔
        ∃ next, found.read entry = some next ∧ next.readAll rest = some last := by
      rw [readAll, List.foldlM_cons]
      exact Option.bind_eq_some_iff
    have hslot {α : Type} (key : String) (decode : Json → Option α) (slot slot' : Option α) :
        Serial.readSlots key decode slot (entry :: rest) = some slot' ↔
          ∃ next, Serial.readSlot key decode slot entry = some next ∧
            Serial.readSlots key decode next rest = some slot' := by
      rw [Serial.readSlots, List.foldlM_cons]
      exact Option.bind_eq_some_iff
    rw [hstep, hslot, hslot, hslot]
    simp only [read_eq_some_iff, ih]
    constructor
    · rintro ⟨next, ⟨hb, hn, hp⟩, hb', hn', hp'⟩
      exact ⟨⟨_, hb, hb'⟩, ⟨_, hn, hn'⟩, _, hp, hp'⟩
    · rintro ⟨⟨b, hb, hb'⟩, ⟨n, hn, hn'⟩, p, hp, hp'⟩
      exact ⟨⟨b, n, p⟩, ⟨hb, hn, hp⟩, hb', hn', hp'⟩

end Found

/-- Settings are decoded from an object one by one. -/
theorem decode_object_eq_some_iff {entries : List (String × Json)} {settings : Settings} :
    decode (.object entries) = some settings ↔
      Serial.optional "map_numerics" Serial.decodeBool standard.mapNumerics entries =
          some settings.mapNumerics ∧
        Serial.optional "max_lob_length" decodeLength standard.maxLobLength entries =
          some settings.maxLobLength ∧
        Serial.optional "default_parse_policy" DefaultPolicy.decode standard.defaultPolicy
          entries = some settings.defaultPolicy := by
  constructor
  · intro h
    obtain ⟨b, hb, h⟩ := Option.bind_eq_some_iff.mp h
    obtain ⟨n, hn, h⟩ := Option.bind_eq_some_iff.mp h
    obtain ⟨p, hp, h⟩ := Option.bind_eq_some_iff.mp h
    cases h
    exact ⟨hb, hn, hp⟩
  · rintro ⟨hb, hn, hp⟩
    simp [decode, hb, hn, hp]

/-- Reading the entries of an object one after the other decodes it. -/
theorem map_readAll (entries : List (String × Json)) :
    (Found.nothing.readAll entries).map Found.settings = decode (.object entries) := by
  ext settings
  rw [Option.map_eq_some_iff, decode_object_eq_some_iff]
  simp only [Found.readAll_eq_some_iff, ← Serial.map_readSlots, Option.map_eq_some_iff]
  constructor
  · rintro ⟨last, ⟨hb, hn, hp⟩, rfl⟩
    exact ⟨⟨_, hb, rfl⟩, ⟨_, hn, rfl⟩, _, hp, rfl⟩
  · rintro ⟨⟨b, hb, hb'⟩, ⟨n, hn, hn'⟩, p, hp, hp'⟩
    obtain ⟨mapNumerics, maxLobLength, defaultPolicy⟩ := settings
    cases hb'
    cases hn'
    cases hp'
    exact ⟨⟨b, n, p⟩, ⟨hb, hn, hp⟩, rfl⟩

variable {entries : List (String × Json)} {settings : Settings}

/-- Where no key of a setting is repeated, an object is decoded to what its entries say. -/
theorem decode_object_iff_saidBy (h : ∀ key ∈ keys, Serial.occurrences key entries ≤ 1) :
    decode (.object entries) = some settings ↔ SaidBy entries settings := by
  simp only [keys, List.forall_mem_cons] at h
  obtain ⟨hflag, hlength, hpolicy, -⟩ := h
  rw [decode_object_eq_some_iff, Serial.optional_eq_some_iff hflag,
    Serial.optional_eq_some_iff hlength, Serial.optional_eq_some_iff hpolicy]
  exact ⟨fun ⟨hb, hn, hp⟩ => ⟨hb, hn, hp⟩, fun ⟨hb, hn, hp⟩ => ⟨hb, hn, hp⟩⟩

/-- An object with a repeated key of a setting cannot be decoded. -/
theorem decode_object_of_repeated {key : String} (hkey : key ∈ keys)
    (h : 1 < Serial.occurrences key entries) : decode (.object entries) = none := by
  refine Option.eq_none_iff_forall_ne_some.mpr fun settings hdecoded => ?_
  obtain ⟨hflag, hlength, hpolicy⟩ := decode_object_eq_some_iff.mp hdecoded
  simp only [keys, List.mem_cons, List.not_mem_nil, or_false] at hkey
  rcases hkey with rfl | rfl | rfl
  · rw [Serial.optional_of_repeated h] at hflag
    cases hflag
  · rw [Serial.optional_of_repeated h] at hlength
    cases hlength
  · rw [Serial.optional_of_repeated h] at hpolicy
    cases hpolicy

/-- Settings come back from their serialized form. -/
theorem decode_encode (settings : Settings) : decode settings.encode = some settings := by
  refine decode_object_eq_some_iff.mpr ⟨rfl, decodeLength_eq_some_iff.mpr rfl, ?_⟩
  change DefaultPolicy.decode (.string settings.defaultPolicy.serialName) = _
  cases settings.defaultPolicy <;> decide

/-- Entries say something of all settings exactly if what they have at the keys can be decoded. -/
theorem exists_saidBy_iff (h : ∀ key ∈ keys, Serial.occurrences key entries ≤ 1) :
    (∃ settings, SaidBy entries settings) ↔
      (∀ j, ("map_numerics", j) ∈ entries → ∃ b, Serial.decodeBool j = some b) ∧
      (∀ j, ("max_lob_length", j) ∈ entries → ∃ n, decodeLength j = some n) ∧
      ∀ j, ("default_parse_policy", j) ∈ entries → ∃ p, DefaultPolicy.decode j = some p := by
  simp only [keys, List.forall_mem_cons] at h
  obtain ⟨hflag, hlength, hpolicy, -⟩ := h
  rw [← Serial.exists_says_iff standard.mapNumerics hflag,
    ← Serial.exists_says_iff standard.maxLobLength hlength,
    ← Serial.exists_says_iff standard.defaultPolicy hpolicy]
  constructor
  · rintro ⟨settings, hb, hn, hp⟩
    exact ⟨⟨_, hb⟩, ⟨_, hn⟩, _, hp⟩
  · rintro ⟨⟨b, hb⟩, ⟨n, hn⟩, p, hp⟩
    exact ⟨⟨b, n, p⟩, hb, hn, hp⟩

/-- Entries with the same values at the keys of settings say the same. -/
theorem saidBy_congr {others : List (String × Json)}
    (h : ∀ key ∈ keys, ∀ j, (key, j) ∈ entries ↔ (key, j) ∈ others) :
    SaidBy entries settings ↔ SaidBy others settings := by
  simp only [keys, List.forall_mem_cons] at h
  obtain ⟨hflag, hlength, hpolicy, -⟩ := h
  constructor
  · rintro ⟨hb, hn, hp⟩
    exact ⟨(Serial.says_congr hflag).mp hb, (Serial.says_congr hlength).mp hn,
      (Serial.says_congr hpolicy).mp hp⟩
  · rintro ⟨hb, hn, hp⟩
    exact ⟨(Serial.says_congr hflag).mpr hb, (Serial.says_congr hlength).mpr hn,
      (Serial.says_congr hpolicy).mpr hp⟩

end Settings

/-- A converter is made of settings exactly if large objects of some length are allowed. -/
theorem Converter.ofSettings_eq_ok_iff {settings : Settings} {c : Converter} :
    ofSettings settings = .ok c ↔ settings.maxLobLength ≠ 0 ∧ c = ⟨settings, .zero⟩ := by
  unfold ofSettings Settings.check
  split
  · next hzero => simp [hzero, Except.map]
  · next hpositive => simp [hpositive, Except.map, eq_comm]

namespace Settings

/--
Settings are read from their own entries. Where none of their keys is repeated, an object is decoded
to the standard settings but for those that its entries give, and it can be decoded exactly if the
value at each of the keys can by itself; so objects with the same values at these keys are decoded
alike, whatever else they have and in whatever order. A repeated key makes it unreadable. To read
the entries one after the other comes to the same. Settings come back from their serialized form,
and a converter takes them as they are, unless they allow no large object.
-/
theorem decode_object_by_keys :
    (∀ entries : List (String × Json), (∀ key ∈ keys, Serial.occurrences key entries ≤ 1) →
      (∀ settings, decode (.object entries) = some settings ↔ SaidBy entries settings) ∧
      ((∃ settings, decode (.object entries) = some settings) ↔
        (∀ j, ("map_numerics", j) ∈ entries → ∃ b, Serial.decodeBool j = some b) ∧
        (∀ j, ("max_lob_length", j) ∈ entries → ∃ n, decodeLength j = some n) ∧
        ∀ j, ("default_parse_policy", j) ∈ entries → ∃ p, DefaultPolicy.decode j = some p) ∧
      ∀ others : List (String × Json), (∀ key ∈ keys, Serial.occurrences key others ≤ 1) →
        (∀ key ∈ keys, ∀ j, (key, j) ∈ entries ↔ (key, j) ∈ others) →
          decode (.object entries) = decode (.object others)) ∧
    (∀ (entries : List (String × Json)) (key : String), key ∈ keys →
      1 < Serial.occurrences key entries → decode (.object entries) = none) ∧
    (∀ entries : List (String × Json),
      decode (.object entries) = (Found.nothing.readAll entries).map Found.settings) ∧
    ((∀ j b, Serial.decodeBool j = some b ↔ j = .bool b) ∧
      (∀ j n, decodeLength j = some n ↔ j = .int n.toNat) ∧
      ∀ j p, DefaultPolicy.decode j = some p ↔
        j = .string p.serialName ∨ j = .object [(p.serialName, .null)]) ∧
    ∀ settings : Settings, decode settings.encode = some settings ∧
      ∀ c, Converter.ofSettings settings = .ok c ↔
        settings.maxLobLength ≠ 0 ∧ c = ⟨settings, .zero⟩ := by
  refine ⟨fun entries h => ⟨fun settings => decode_object_iff_saidBy h, ?_,
      fun others hothers hsame => ?_⟩,
    fun entries key hkey h => decode_object_of_repeated hkey h,
    fun entries => (map_readAll entries).symm,
    ⟨fun j b => Serial.decodeBool_eq_some_iff, fun j n => decodeLength_eq_some_iff,
      fun j p => DefaultPolicy.decode_eq_some_iff⟩,
    fun settings => ⟨decode_encode settings, fun c => Converter.ofSettings_eq_ok_iff⟩⟩
  · simp only [decode_object_iff_saidBy h]
    exact exists_saidBy_iff h
  · ext settings
    rw [decode_object_iff_saidBy h, decode_object_iff_saidBy hothers, saidBy_congr hsame]

/-- Entries among others, nested and in another order, and one that is repeated. -/
theorem decode_object_by_keys_among_others :
    let length : String × Json := ("max_lob_length", .int 1024)
    let policy : String × Json := ("default_parse_policy", .string "ignore")
    let nested : String × Json := ("extra", .object [length, ("map_numerics", .int 1)])
    let settings : Settings := ⟨false, 1024, .ignore⟩
    decode (.object [length, policy]) = some settings ∧
      (∀ key ∈ keys, Serial.occurrences key [nested, policy, length, nested] ≤ 1) ∧
      decode (.object [nested, policy, length, nested]) = some settings ∧
      SaidBy [nested, policy, length, nested] settings ∧
      decode (.object [length, policy, length]) = none ∧
      Converter.ofSettings settings = .ok ⟨settings, .zero⟩ := by
  intro length policy nested settings
  have hplain : ∀ key ∈ keys, Serial.occurrences key [length, policy] ≤ 1 := by decide
  have hmixed : ∀ key ∈ keys, Serial.occurrences key [nested, policy, length, nested] ≤ 1 := by
    decide
  have hsame : ∀ key ∈ keys, ∀ j, (key, j) ∈ [length, policy] ↔
      (key, j) ∈ [nested, policy, length, nested] := by
    simp [keys, length, policy, nested]
  have hdecoded : decode (.object [length, policy]) = some settings := rfl
  obtain ⟨hobjects, hrepeated, -, -, hsettings⟩ := decode_object_by_keys
  obtain ⟨-, -, hcongr⟩ := hobjects _ hplain
  have hothers : decode (.object [nested, policy, length, nested]) = some settings :=
    (hcongr _ hmixed hsame).symm.trans hdecoded
  exact ⟨hdecoded, hmixed, hothers, ((hobjects _ hmixed).1 settings).mp hothers,
    hrepeated _ "max_lob_length" (by decide) (by decide),
    ((hsettings settings).2 _).mpr ⟨by decide, rfl⟩⟩

end Settings

end RowCast
