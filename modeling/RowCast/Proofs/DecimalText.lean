import RowCast.Decimal.Reading
import RowCast.Proofs.Digits

/-!
# Decimals behind their text

The text of a decimal has as many digits behind the point as its scale, so mantissa and scale are
read back from it exactly. Only the sign of a negative zero is lost in reading; the text still has
it, and so different decimals always have different texts.
-/

namespace RowCast

namespace Decimal

namespace Reading

/-- The reading after several more digits. -/
def pushAll (r : Reading) (digits : List Char) : Reading :=
  digits.foldl (fun r c => r.push ((Text.digitValue? c).getD 0)) r

/-- Digits are pushed from left to right. -/
theorem pushAll_cons (r : Reading) (c : Char) (digits : List Char) :
    r.pushAll (c :: digits) = (r.push ((Text.digitValue? c).getD 0)).pushAll digits := rfl

/-- Digits build up the mantissa. -/
@[simp] theorem pushAll_mantissa (r : Reading) (digits : List Char) :
    (r.pushAll digits).mantissa = Text.digitsValue r.mantissa digits := by
  induction digits generalizing r with
  | nil => rfl
  | cons c digits ih => exact ih _

/-- Digits do not move the point. -/
@[simp] theorem pushAll_point (r : Reading) (digits : List Char) :
    (r.pushAll digits).point = r.point := by
  induction digits generalizing r with
  | nil => rfl
  | cons c digits ih => exact ih _

/-- Digits behind the point count for the scale. -/
theorem pushAll_scale {r : Reading} (hpoint : r.point = true) (digits : List Char) :
    (r.pushAll digits).scale = r.scale + digits.length := by
  induction digits generalizing r with
  | nil => rfl
  | cons c digits ih =>
    have hpushed : (r.push ((Text.digitValue? c).getD 0)).scale = r.scale + 1 := by
      simp [push, hpoint]
    have hpoint' : (r.push ((Text.digitValue? c).getD 0)).point = true := hpoint
    rw [pushAll_cons, ih hpoint', hpushed, List.length_cons]
    omega

/-- Digits before the point leave the scale at zero. -/
theorem pushAll_scale_of_whole {r : Reading} (hpoint : r.point = false) (hscale : r.scale = 0)
    (digits : List Char) : (r.pushAll digits).scale = 0 := by
  induction digits generalizing r with
  | nil => exact hscale
  | cons c digits ih => exact ih hpoint (by simp [push, hpoint])

/-- A reading with more digits has digits. -/
theorem pushAll_digits (r : Reading) {digits : List Char} (h : digits ≠ []) :
    (r.pushAll digits).digits = true := by
  induction digits generalizing r with
  | nil => exact absurd rfl h
  | cons c digits ih =>
    cases digits with
    | nil => rfl
    | cons d digits => exact ih _ (by simp)

end Reading

/-- Digits that fit are read one by one. -/
theorem readFrom_digits (negative : Bool) (r : Reading) (digits : List Char)
    (hdigits : ∀ c ∈ digits, Text.isDigit c = true)
    (hmantissa : Text.digitsValue r.mantissa digits < 2 ^ 96)
    (hscale : r.point = true → r.scale + digits.length ≤ 28) (rest : List Char) :
    readFrom negative r (digits ++ rest) = readFrom negative (r.pushAll digits) rest := by
  induction digits generalizing r with
  | nil => rfl
  | cons c digits ih =>
    obtain ⟨digit, hdigit⟩ := Option.isSome_iff_exists.mp (hdigits c List.mem_cons_self)
    have hfull : r.isFull = false := by
      cases hpoint : r.point with
      | false => simp [Reading.isFull, hpoint]
      | true =>
        have := hscale hpoint
        simp only [List.length_cons] at this
        simp [Reading.isFull, hpoint]
        omega
    have hvalue : Text.digitsValue (r.mantissa * 10 + digit) digits < 2 ^ 96 := by
      simpa only [Text.digitsValue, hdigit, Option.getD_some] using hmantissa
    have hroom : r.mantissa * 10 + digit < 2 ^ 96 :=
      Nat.lt_of_le_of_lt (Text.le_digitsValue _ digits) hvalue
    rw [List.cons_append, readFrom, hfull, hdigit]
    simp only [Bool.false_eq_true, if_false, hroom, if_true]
    rw [Reading.pushAll_cons, hdigit, Option.getD_some]
    refine ih _ (fun d hd => hdigits d (List.mem_cons_of_mem c hd)) hvalue fun hpoint => ?_
    have := hscale hpoint
    simp only [List.length_cons] at this
    simp only [Reading.push] at hpoint ⊢
    rw [if_pos hpoint]
    omega

/-- The digits of a decimal are cut in two where the point stands. -/
theorem exists_digitsText (d : Decimal) : ∃ whole fraction,
    whole ++ fraction = Text.paddedText (d.scale + 1) d.mantissa ∧ whole ≠ [] ∧
      fraction.length = d.scale ∧
      d.digitsText = if d.scale = 0 then whole else whole ++ '.' :: fraction := by
  have hlength : d.scale + 1 ≤ (Text.paddedText (d.scale + 1) d.mantissa).length := by
    rw [Text.paddedText_length]
    exact Nat.le_max_left _ _
  unfold digitsText
  generalize Text.paddedText (d.scale + 1) d.mantissa = digits at hlength ⊢
  refine ⟨digits.take (digits.length - d.scale), digits.drop (digits.length - d.scale),
    List.take_append_drop _ _, fun hnil => ?_, ?_, rfl⟩
  · have := congrArg List.length hnil
    simp only [List.length_take, List.length_nil] at this
    omega
  · rw [List.length_drop]
    omega

/-- The text of a decimal begins with a digit behind its sign. -/
theorem digitsText_eq_cons (d : Decimal) :
    ∃ c rest, d.digitsText = c :: rest ∧ Text.isDigit c = true := by
  obtain ⟨whole, fraction, hdigits, hwhole, -, htext⟩ := d.exists_digitsText
  obtain ⟨c, rest, rfl⟩ := List.exists_cons_of_ne_nil hwhole
  have hmember : c ∈ Text.paddedText (d.scale + 1) d.mantissa := by simp [← hdigits]
  have hc : Text.isDigit c = true := Text.isDigit_of_mem_paddedText hmember
  rw [htext]
  split
  · exact ⟨c, rest, rfl, hc⟩
  · exact ⟨c, rest ++ '.' :: fraction, rfl, hc⟩

/-- Mantissa and scale are read from the digits of a decimal. -/
theorem readFrom_digitsText (negative : Bool) (d : Decimal) :
    readFrom negative .start d.digitsText = ofSigned? negative d.mantissa d.scale := by
  obtain ⟨whole, fraction, hdigits, hwhole, hfraction, htext⟩ := d.exists_digitsText
  have hmember {c : Char} (h : c ∈ whole ++ fraction) : Text.isDigit c = true := by
    rw [hdigits] at h
    exact Text.isDigit_of_mem_paddedText h
  have hvalue : Text.digitsValue (Text.digitsValue 0 whole) fraction = d.mantissa := by
    rw [← Text.digitsValue_append, hdigits, Text.digitsValue_paddedText]
  have hmantissa := d.mantissa_lt
  have hread := readFrom_digits negative .start whole
    (fun c hc => hmember (List.mem_append_left _ hc))
    (Nat.lt_of_le_of_lt (Text.le_digitsValue _ fraction) (hvalue ▸ hmantissa))
    (by simp [Reading.start])
  have hwholeScale : (Reading.start.pushAll whole).scale = 0 :=
    Reading.pushAll_scale_of_whole rfl rfl whole
  rw [htext]
  split
  · next hscale =>
    have hnil : fraction = [] := List.eq_nil_of_length_eq_zero (hfraction.trans hscale)
    rw [hnil] at hvalue
    rw [← List.append_nil whole, hread, readFrom, Reading.pushAll_digits _ hwhole, if_pos rfl,
      hwholeScale, hscale, Reading.pushAll_mantissa]
    exact congrArg (ofSigned? negative · 0) hvalue
  · rw [hread]
    generalize hr : Reading.start.pushAll whole = r at hwholeScale ⊢
    have hstart : r.mantissa = Text.digitsValue 0 whole ∧ r.point = false := by
      rw [← hr]
      exact ⟨Reading.pushAll_mantissa _ _, Reading.pushAll_point _ _⟩
    have hpoint : readFrom negative r ('.' :: fraction) =
        readFrom negative { r with point := true } fraction := by
      have hnone : Text.digitValue? '.' = none := rfl
      simp [readFrom, Reading.isFull, hstart.2, hnone]
    have hrest := readFrom_digits negative { r with point := true } fraction
      (fun c hc => hmember (List.mem_append_right _ hc))
      (by rw [hstart.1, hvalue]; exact hmantissa)
      (fun _ => by rw [hwholeScale, hfraction, Nat.zero_add]; exact d.scale_le) []
    have hdigitsRead : ({ r with point := true }.pushAll fraction).digits = true := by
      refine Reading.pushAll_digits _ fun hnil => ?_
      rw [hnil] at hfraction
      exact absurd hfraction.symm ‹_›
    rw [hpoint, ← List.append_nil fraction, hrest, readFrom, hdigitsRead, if_pos rfl,
      Reading.pushAll_mantissa, Reading.pushAll_scale rfl, hwholeScale, hfraction, Nat.zero_add]
    rw [hstart.1, hvalue]

/-- A mantissa and a scale of a decimal make a decimal again, which loses the sign of a zero. -/
theorem ofSigned?_parts (negative : Bool) (d : Decimal) :
    ofSigned? negative d.mantissa d.scale =
      some { d with negative := negative && decide (d.mantissa ≠ 0) } := by
  have hmantissa := d.mantissa_lt
  have hscale := d.scale_le
  cases negative with
  | false =>
    rw [ofSigned?, ofMantissa?, dif_pos (by simpa using ⟨hmantissa, hscale⟩)]
    simp
  | true =>
    rw [ofSigned?, ofMantissa?, dif_pos (by simpa using ⟨hmantissa, hscale⟩)]
    by_cases hzero : d.mantissa = 0
    · simp [hzero]
    · simp [hzero, Nat.pos_of_ne_zero hzero]

/-- The text of a decimal shows a minus sign exactly where the decimal has one. -/
theorem text_head?_eq_minus_iff (d : Decimal) : d.text.head? = some '-' ↔ d.negative = true := by
  obtain ⟨c, rest, htext, hc⟩ := d.digitsText_eq_cons
  have hminus : c ≠ '-' := by
    rintro rfl
    exact absurd hc (by decide)
  rw [text, htext]
  cases d.negative with
  | true => simp
  | false => simpa using hminus

/-- A decimal is read back from its text, but for the sign of a zero. -/
theorem readPlain_text (d : Decimal) :
    readPlain d.text = some { d with negative := d.negative && decide (d.mantissa ≠ 0) } := by
  rw [← ofSigned?_parts, ← readFrom_digitsText, text]
  cases d.negative with
  | true => rfl
  | false =>
    obtain ⟨c, rest, htext, hc⟩ := d.digitsText_eq_cons
    have hminus : c ≠ '-' := by
      rintro rfl
      exact absurd hc (by decide)
    have hplus : c ≠ '+' := by
      rintro rfl
      exact absurd hc (by decide)
    rw [if_neg Bool.false_ne_true, htext]
    simp [readPlain, hminus, hplus]

/-- Different decimals have different texts. -/
theorem text_inj {a b : Decimal} (h : a.text = b.text) : a = b := by
  have hread := congrArg readPlain h
  rw [readPlain_text, readPlain_text, Option.some.injEq, Decimal.mk.injEq] at hread
  obtain ⟨-, hmantissa, hscale⟩ := hread
  have hsign : a.negative = b.negative := by
    rw [Bool.eq_iff_iff, ← text_head?_eq_minus_iff, ← text_head?_eq_minus_iff, h]
  cases a
  cases b
  simp_all

end Decimal

end RowCast
