import RowCast.Proofs.Blanks
import RowCast.Proofs.Computation
import RowCast.Proofs.IntegerWidths
import RowCast.Schema.Literal

/-!
# The grammar of integer literals

An integer literal is an optional sign and ASCII digits, between blanks. Reading it digit by digit
within the bounds of a width answers exactly the integer that is written, if the width holds it:
digits only take a number further away from zero, so a number that leaves the bounds on the way
never comes back. No room is needed for zeros in front.
-/

namespace RowCast

namespace Text

/-- A numeral is a run of ASCII digits, of which there is at least one. -/
def IsNumeral (s : List Char) : Prop :=
  s ≠ [] ∧ ∀ c ∈ s, isDigit c = true

/-- The text of a number is a numeral. -/
theorem isNumeral_natText (n : Nat) : IsNumeral (natText n) :=
  ⟨natText_ne_nil n, fun _ => isDigit_of_mem_natText⟩

end Text

namespace IntLiteral

open Text (IsNumeral digitsValue isDigit)

/-- The integer of a magnitude, with or without a minus sign. -/
def signed (negative : Bool) (magnitude : Nat) : Int :=
  if negative then -magnitude else magnitude

/-- A text writes an integer by a numeral with a sign or none before it. -/
inductive Writes : List Char → Int → Prop where
  | plain {digits : List Char} (hdigits : IsNumeral digits) :
    Writes digits (digitsValue 0 digits)
  | plus {digits : List Char} (hdigits : IsNumeral digits) :
    Writes ('+' :: digits) (digitsValue 0 digits)
  | minus {digits : List Char} (hdigits : IsNumeral digits) :
    Writes ('-' :: digits) (-digitsValue 0 digits)

/-- The text of an integer writes it. -/
theorem writes_intText (n : Int) : Writes (Text.intText n) n := by
  have hnumeral := Text.isNumeral_natText n.natAbs
  have hvalue := Text.digitsValue_natText n.natAbs
  unfold Text.intText
  split
  · have hminus := Writes.minus hnumeral
    rwa [hvalue, Int.ofNat_natAbs_of_nonpos (by omega), Int.neg_neg] at hminus
  · have hplain := Writes.plain hnumeral
    rwa [hvalue, Int.natAbs_of_nonneg (by omega)] at hplain

/-- A text that writes an integer has nothing in it but digits and signs. -/
theorem Writes.isDigit_or_sign {s : List Char} {n : Int} (h : Writes s n) {c : Char} (hc : c ∈ s) :
    isDigit c = true ∨ c = '+' ∨ c = '-' := by
  cases h with
  | plain hdigits => exact .inl (hdigits.2 c hc)
  | plus hdigits =>
    rcases List.mem_cons.mp hc with rfl | hc
    · exact .inr (.inl rfl)
    · exact .inl (hdigits.2 c hc)
  | minus hdigits =>
    rcases List.mem_cons.mp hc with rfl | hc
    · exact .inr (.inr rfl)
    · exact .inl (hdigits.2 c hc)

/-- A text that writes an integer has no blanks. -/
theorem Writes.not_blank {s : List Char} {n : Int} (h : Writes s n) :
    ∀ c ∈ s, Text.isBlank c = false := by
  intro c hc
  rcases h.isDigit_or_sign hc with hdigit | rfl | rfl
  · exact Text.isBlank_of_isDigit hdigit
  · rfl
  · rfl

variable {least greatest n : Int}

/-- Bounds around zero that hold a magnitude hold every smaller one of the same sign. -/
theorem within_of_le (hzero : least ≤ 0 ∧ 0 ≤ greatest) {negative : Bool} {small large : Nat}
    (hle : small ≤ large) (h : least ≤ signed negative large ∧ signed negative large ≤ greatest) :
    least ≤ signed negative small ∧ signed negative small ≤ greatest := by
  cases negative with
  | false =>
    simp only [signed, Bool.false_eq_true, if_false] at h ⊢
    omega
  | true =>
    simp only [signed, if_true] at h ⊢
    omega

/--
Digits are read one by one exactly if they are all digits and the integer that they amount to is
within the bounds, as what has been read so far is.
-/
theorem readDigits_eq_ok_iff (hzero : least ≤ 0 ∧ 0 ≤ greatest) {negative : Bool} {acc : Nat}
    (hacc : least ≤ signed negative acc ∧ signed negative acc ≤ greatest) {digits : List Char} :
    readDigits least greatest negative (signed negative acc) digits = .ok n ↔
      (∀ c ∈ digits, isDigit c = true) ∧ n = signed negative (digitsValue acc digits) ∧
        least ≤ n ∧ n ≤ greatest := by
  induction digits generalizing acc with
  | nil =>
    simp only [readDigits, digitsValue, Except.ok.injEq]
    constructor
    · rintro rfl
      exact ⟨by simp, rfl, hacc⟩
    · exact fun h => h.2.1.symm
  | cons c rest ih =>
    cases hdigit : Text.digitValue? c with
    | none =>
      have hc : isDigit c = false := by simp [isDigit, hdigit]
      simp [readDigits, hdigit, hc]
    | some digit =>
      have hc : isDigit c = true := by simp [isDigit, hdigit]
      have hnext : (if negative then signed negative acc * 10 - digit
          else signed negative acc * 10 + digit) = signed negative (acc * 10 + digit) := by
        cases negative <;> simp only [signed, if_true, Bool.false_eq_true, if_false] <;> omega
      have hdigits : (∀ d ∈ c :: rest, isDigit d = true) ↔ ∀ d ∈ rest, isDigit d = true := by
        simp [hc]
      have hvalue : digitsValue acc (c :: rest) = digitsValue (acc * 10 + digit) rest := by
        simp [digitsValue, hdigit]
      simp only [readDigits, hdigit, hnext, hdigits, hvalue]
      by_cases hwithin : least ≤ signed negative (acc * 10 + digit) ∧
          signed negative (acc * 10 + digit) ≤ greatest
      · rw [if_neg (Int.not_lt.mpr hwithin.1), if_neg (Int.not_lt.mpr hwithin.2), ih hwithin]
      · -- Further digits only lead further away from the bounds.
        have hgrows := Text.le_digitsValue (acc * 10 + digit) rest
        constructor
        · intro h
          split at h
          · cases h
          · split at h
            · cases h
            · exact absurd (by omega) hwithin
        · rintro ⟨-, hn, hrange⟩
          exact absurd (within_of_le hzero hgrows (hn ▸ hrange)) hwithin

/-- Digits behind a sign are read exactly if they are a numeral within the bounds. -/
theorem readSigned_eq_ok_iff (hzero : least ≤ 0 ∧ 0 ≤ greatest) {negative : Bool}
    {digits : List Char} :
    readSigned least greatest negative digits = .ok n ↔
      IsNumeral digits ∧ n = signed negative (digitsValue 0 digits) ∧ least ≤ n ∧ n ≤ greatest := by
  have hstart : signed negative 0 = 0 := by cases negative <;> rfl
  cases digits with
  | nil => simp [readSigned, IsNumeral]
  | cons c rest =>
    have hread := @readDigits_eq_ok_iff least greatest n hzero negative 0 (by rwa [hstart])
      (c :: rest)
    rw [hstart] at hread
    simp [readSigned, IsNumeral, hread]

/-- A numeral has no sign, so it is read as if it stood behind a plus sign. -/
theorem read_of_isNumeral {digits : List Char} (h : IsNumeral digits) :
    read least greatest digits = readSigned least greatest false digits := by
  have hunsigned {c : Char} {rest : List Char} (heq : digits = c :: rest) : isDigit c = true :=
    h.2 c (by simp [heq])
  unfold read
  split
  · exact absurd rfl h.1
  · exact absurd (hunsigned rfl) (by decide)
  · exact absurd (hunsigned rfl) (by decide)
  · unfold readSigned
    split
    · exact absurd rfl h.1
    · rfl

/-- An integer literal is read exactly if it writes an integer within the bounds. -/
theorem read_eq_ok_iff (hzero : least ≤ 0 ∧ 0 ≤ greatest) {s : List Char} :
    read least greatest s = .ok n ↔ Writes s n ∧ least ≤ n ∧ n ≤ greatest := by
  constructor
  · intro h
    unfold read at h
    split at h
    · cases h
    · obtain ⟨hdigits, rfl, hrange⟩ := (readSigned_eq_ok_iff hzero).mp h
      exact ⟨.minus hdigits, hrange⟩
    · obtain ⟨hdigits, rfl, hrange⟩ := (readSigned_eq_ok_iff hzero).mp h
      exact ⟨.plus hdigits, hrange⟩
    · next hne _ _ =>
      have hread := @readDigits_eq_ok_iff least greatest n hzero false 0 hzero s
      obtain ⟨hdigits, rfl, hrange⟩ := hread.mp h
      exact ⟨.plain ⟨hne, hdigits⟩, hrange⟩
  · rintro ⟨hwrites, hrange⟩
    cases hwrites with
    | plain hdigits =>
      rw [read_of_isNumeral hdigits]
      exact (readSigned_eq_ok_iff hzero).mpr ⟨hdigits, rfl, hrange⟩
    | plus hdigits => exact (readSigned_eq_ok_iff hzero).mpr ⟨hdigits, rfl, hrange⟩
    | minus hdigits => exact (readSigned_eq_ok_iff hzero).mpr ⟨hdigits, rfl, hrange⟩

end IntLiteral

/-- An integer is read at a width exactly if it is written between blanks and the width holds it. -/
theorem Literal.readInt_eq_ok_iff {width : IntegerWidth} {s : List Char} {n : Int} :
    readInt width s = .ok n ↔ IntLiteral.Writes (Text.trim s) n ∧ width.holds n = true := by
  rw [readInt, Except.mapError_eq_ok_iff, IntLiteral.read_eq_ok_iff width.least_le_zero_le_greatest]
  simp [IntegerWidth.holds]

namespace IntegerWidth

variable (width : IntegerWidth)

/-- The literals of integer fields are read at their widths. -/
theorem readLiteral_fieldType (literal : String) :
    width.fieldType.readLiteral literal =
      (Literal.readInt width literal.toList).map width.toValue := by
  cases width <;> rfl

/-- A literal is read as the value of an integer that it writes and that the width holds. -/
theorem readLiteral_eq_ok_iff {literal : String} {v : Value} :
    width.fieldType.readLiteral literal = .ok v ↔
      ∃ n, v = width.toValue n ∧ IntLiteral.Writes (Text.trim literal.toList) n ∧
        width.holds n = true := by
  rw [readLiteral_fieldType]
  constructor
  · intro h
    obtain ⟨n, hread, rfl⟩ := Except.exists_of_map_ok h
    exact ⟨n, rfl, Literal.readInt_eq_ok_iff.mp hread⟩
  · rintro ⟨n, rfl, h⟩
    rw [Literal.readInt_eq_ok_iff.mpr h]
    rfl

/--
A literal of an integer field is read exactly if there is a sign or none and then digits between its
blanks, and the width holds the integer that they write. The integer is the same at every wider
width, and the decimal text of each integer that the width holds is read back between any blanks.
-/
theorem readLiteral_iff_writes :
    (∀ (literal : String) (v : Value), width.fieldType.readLiteral literal = .ok v ↔
      ∃ n, v = width.toValue n ∧ IntLiteral.Writes (Text.trim literal.toList) n ∧
        -2 ^ (width.bits - 1) ≤ n ∧ n < 2 ^ (width.bits - 1)) ∧
    (∀ (wider : IntegerWidth) (literal : String) (v : Value), width.bits ≤ wider.bits →
      width.fieldType.readLiteral literal = .ok v →
      ∃ n w, v.integer? = some n ∧ w.integer? = some n ∧
        wider.fieldType.readLiteral literal = .ok w) ∧
    ∀ (n : Int) (front back : List Char), -2 ^ (width.bits - 1) ≤ n → n < 2 ^ (width.bits - 1) →
      (∀ c ∈ front, Text.isBlank c = true) → (∀ c ∈ back, Text.isBlank c = true) →
      width.fieldType.readLiteral (String.ofList (front ++ Text.intText n ++ back)) =
        .ok (width.toValue n) := by
  refine ⟨fun literal v => ?_, fun wider literal v hbits hread => ?_,
    fun n front back hleast hgreatest hfront hback => ?_⟩
  · simp only [← holds_iff]
    exact width.readLiteral_eq_ok_iff
  · obtain ⟨n, rfl, hwrites, hholds⟩ := width.readLiteral_eq_ok_iff.mp hread
    have hwider := holds_of_le hbits hholds
    exact ⟨n, wider.toValue n, integer?_toValue hholds, integer?_toValue hwider,
      wider.readLiteral_eq_ok_iff.mpr ⟨n, rfl, hwrites, hwider⟩⟩
  · have hwrites := IntLiteral.writes_intText n
    refine width.readLiteral_eq_ok_iff.mpr ⟨n, rfl, ?_, holds_iff.mpr ⟨hleast, hgreatest⟩⟩
    rwa [String.toList_ofList, Text.trim_surrounded hfront hback,
      Text.trim_eq_self_of_forall hwrites.not_blank]

/-- The least integer of eight bits, with zeros in front and blanks around it. -/
theorem readLiteral_iff_writes_of_least :
    let literal := "\u3000-000128\n"
    FieldType.int8.readLiteral literal = .ok (.int8 (-128)) ∧
      (∃ w, FieldType.int64.readLiteral literal = .ok w ∧ w.integer? = some (-128)) ∧
      FieldType.int8.readLiteral "\u3000-128\n" = .ok (.int8 (-128)) := by
  intro literal
  obtain ⟨hgrammar, hwider, htext⟩ := readLiteral_iff_writes .int8
  have hnumeral : Text.IsNumeral ['0', '0', '0', '1', '2', '8'] :=
    ⟨by decide, List.all_eq_true.mp rfl⟩
  have hwrites := IntLiteral.Writes.minus hnumeral
  have htrim : Text.trim literal.toList = ['-', '0', '0', '0', '1', '2', '8'] := by decide
  rw [← htrim] at hwrites
  have hread := (hgrammar literal (.int8 (-128))).mpr ⟨-128, rfl, hwrites, by decide, by decide⟩
  obtain ⟨n, w, hn, hw, hwide⟩ := hwider .int64 literal _ (by decide) hread
  cases hn
  have hsame : String.ofList (['\u3000'] ++ Text.intText (-128) ++ ['\n']) = "\u3000-128\n" := by
    decide
  refine ⟨hread, ⟨w, hwide, hw⟩, ?_⟩
  rw [← hsame]
  exact htext (-128) ['\u3000'] ['\n'] (by decide) (by decide) (List.all_eq_true.mp rfl)
    (List.all_eq_true.mp rfl)

end IntegerWidth

end RowCast
