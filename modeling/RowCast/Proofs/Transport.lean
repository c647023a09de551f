import RowCast.Proofs.CalendarText
import RowCast.Proofs.DecimalText
import RowCast.Schema.Basic
import RowCast.Value.Transport

/-!
# What is kept in transport

Two values of one type that travel as the same JSON are the same value, with every bit of its
payload, unless the type is one of floats or one of the two is in a leap second within a minute.
Base64 is undone character by character; decimals and days are told apart by their texts, and times
as far as their texts show them.
-/

namespace RowCast

namespace Text

/-- The six bits of a character of the standard alphabet. -/
def base64Value (c : Char) : Nat :=
  if c.isUpper then c.toNat - 65
  else if c.isLower then c.toNat - 71
  else if c.isDigit then c.toNat + 4
  else if c = '+' then 62
  else 63

/-- The character for six bits stands for them. -/
theorem base64Value_base64Char {n : Nat} (h : n < 64) : base64Value (base64Char n) = n := by
  have hall : ∀ n < 64, base64Value (base64Char n) = n := by decide
  exact hall n h

/-- No six bits are written as padding. -/
theorem base64Char_ne_padding {n : Nat} (h : n < 64) : base64Char n ≠ '=' := by
  have hall : ∀ n < 64, base64Char n ≠ '=' := by decide
  exact hall n h

/-- The bytes of a text in Base64, by four characters at a time. -/
def ofBase64 : List Char → List UInt8
  | p :: q :: r :: s :: rest =>
    let high := base64Value p * 64 + base64Value q
    if r = '=' then [UInt8.ofNat (high / 16)]
    else
      let middle := high * 64 + base64Value r
      if s = '=' then [UInt8.ofNat (middle / 1024), UInt8.ofNat (middle / 4)]
      else
        let n := middle * 64 + base64Value s
        UInt8.ofNat (n / 65536) :: UInt8.ofNat (n / 256) :: UInt8.ofNat n :: ofBase64 rest
  | _ => []

/-- A number that agrees with a byte in its last eight bits is cut to the byte. -/
theorem ofNat_eq_of_mod {n : Nat} {b : UInt8} (h : n % 256 = b.toNat) : UInt8.ofNat n = b :=
  UInt8.toNat_inj.mp (UInt8.toNat_ofNat'.trans h)

/-- Bytes come back from their text in Base64. -/
theorem ofBase64_base64 (data : List UInt8) : ofBase64 (base64 data) = data := by
  induction data using base64.induct with
  | case1 => rfl
  | case2 a =>
    have ha := a.toNat_lt
    rw [base64, ofBase64, if_pos rfl, base64Value_base64Char (by omega),
      base64Value_base64Char (by omega), ofNat_eq_of_mod (b := a) (by omega)]
  | case3 a b =>
    have ha := a.toNat_lt
    have hb := b.toNat_lt
    rw [base64, ofBase64, if_neg (base64Char_ne_padding (by omega)), if_pos rfl,
      base64Value_base64Char (by omega), base64Value_base64Char (by omega),
      base64Value_base64Char (by omega), ofNat_eq_of_mod (b := a) (by omega),
      ofNat_eq_of_mod (b := b) (by omega)]
  | case4 a b c rest ih =>
    have ha := a.toNat_lt
    have hb := b.toNat_lt
    have hc := c.toNat_lt
    rw [base64, ofBase64, if_neg (base64Char_ne_padding (by omega)),
      if_neg (base64Char_ne_padding (by omega)), ih, base64Value_base64Char (by omega),
      base64Value_base64Char (by omega), base64Value_base64Char (by omega),
      base64Value_base64Char (by omega)]
    dsimp only
    rw [ofNat_eq_of_mod (b := a) (by omega), ofNat_eq_of_mod (b := b) (by omega),
      ofNat_eq_of_mod (b := c) (by omega)]

/-- Different bytes have different texts in Base64. -/
theorem base64_inj {data other : List UInt8} (h : base64 data = base64 other) : data = other := by
  have hread := congrArg ofBase64 h
  rwa [ofBase64_base64, ofBase64_base64] at hread

end Text

/-- Whether the values of a type travel exactly, which floats need not. -/
def FieldType.isExact : FieldType → Bool
  | .float32 | .float64 => false
  | _ => true

namespace Value

/-- Only NULL travels as the null of JSON, floats left aside. -/
theorem toJson_ne_null {type : FieldType} (hexact : type.isExact = true) {v : Value}
    (h : type.accepts v = true) : v.toJson ≠ .null := by
  cases v with
  | null => cases type <;> cases h
  | float32 x | float64 x =>
    cases type <;> cases h
    cases hexact
  | _ => simp [toJson]

/-- The value that a text shows travels as the value that the text was written for. -/
theorem toJson_shown (v : Value) : v.shown.toJson = v.toJson := by
  cases v with
  | time t => rw [shown, toJson, toJson, t.text_shown]
  | timestamp t => rw [shown, toJson, toJson, t.offsetText_shown]
  | _ => rfl

/-- Values of one type that travel alike show the same, floats left aside. -/
theorem shown_eq_of_toJson_eq {type : FieldType} (hexact : type.isExact = true) {v w : Value}
    (hv : type.accepts v = true) (hw : type.accepts w = true) (h : v.toJson = w.toJson) :
    v.shown = w.shown := by
  -- Only the pairs of values of one type are left, a case for each type.
  cases type <;> cases v <;> cases hv <;> cases w <;> cases hw
  case float32 | float64 => cases hexact
  all_goals simp only [toJson, Json.bool.injEq, Json.int.injEq, Json.string.injEq,
    String.ofList_inj] at h
  case bool | string => rw [h]
  case int8 => rw [Int8.toInt_inj.mp h]
  case int16 => rw [Int16.toInt_inj.mp h]
  case int32 => rw [Int32.toInt_inj.mp h]
  case int64 => rw [Int64.toInt_inj.mp h]
  case decimal => rw [Decimal.text_inj h]
  case bytes => rw [Text.base64_inj h]
  case date => rw [Date.text_inj h]
  case time => rw [shown, shown, TimeOfDay.text_eq_iff.mp h]
  case timestamp => rw [shown, shown, Timestamp.offsetText_eq_iff.mp h]

end Value

end RowCast
