import RowCast.Proofs.Blanks
import RowCast.Proofs.LetterCase
import RowCast.Schema.Literal

/-!
# Literals in quotes and blanks

Literals for truth values, days, times and instants are read without their single quotes and then
without outer blanks. So quotes may be put in anywhere, and blanks and quotes may be put around a
literal in any order: what is read, or why nothing is read, stays the same. Every text comes about
in this way from the text that is left of it, which is how the literals that mean true are told from
all others.
-/

namespace RowCast

open Text (isBlank lower trim sameIgnoringCase)

namespace Literal

/-- The second text is the first one with single quotes put in, any number of them anywhere. -/
inductive Quotes : List Char → List Char → Prop where
  | nil : Quotes [] []
  | keep (c : Char) {s t : List Char} (h : Quotes s t) : Quotes (c :: s) (c :: t)
  | quote {s t : List Char} (h : Quotes s t) : Quotes s ('\x27' :: t)

/-- A text has nothing but blanks and single quotes. -/
def IsPadding (s : List Char) : Prop :=
  ∀ c ∈ s, isBlank c = true ∨ c = '\x27'

/-- The second text is the first one with quotes put in anywhere and padding on both sides. -/
def Wraps (s t : List Char) : Prop :=
  ∃ front inner back, t = front ++ inner ++ back ∧ Quotes s inner ∧ IsPadding front ∧
    IsPadding back

variable {s t : List Char}

/-- Quotes that are put in go with the quotes of the text. -/
theorem Quotes.filter_eq (h : Quotes s t) : t.filter (· ≠ '\x27') = s.filter (· ≠ '\x27') := by
  induction h with
  | nil => rfl
  | keep c h ih => rw [List.filter_cons, List.filter_cons, ih]
  | quote h ih => exact ih

/-- A text is the one without its quotes with quotes put in. -/
theorem quotes_filter (t : List Char) : Quotes (t.filter (· ≠ '\x27')) t := by
  induction t with
  | nil => exact .nil
  | cons c t ih =>
    by_cases hc : c = '\x27'
    · subst hc
      exact .quote ih
    · rw [List.filter_cons_of_pos (by simpa using hc)]
      exact .keep c ih

/-- Without its quotes a text is blank exactly if it is padding. -/
theorem isPadding_iff :
    IsPadding s ↔ ∀ c ∈ s.filter (· ≠ '\x27'), isBlank c = true := by
  constructor
  · intro h c hc
    obtain ⟨hmem, hquote⟩ := List.mem_filter.mp hc
    exact (h c hmem).resolve_right (of_decide_eq_true hquote)
  · intro h c hc
    by_cases hquote : c = '\x27'
    · exact .inr hquote
    · exact .inl (h c (List.mem_filter.mpr ⟨hc, decide_eq_true hquote⟩))

/-- Quotes and padding that are put to a literal do not change what is left of it. -/
theorem Wraps.unquote_eq (h : Wraps s t) : unquote t = unquote s := by
  obtain ⟨front, inner, back, rfl, hquotes, hfront, hback⟩ := h
  rw [unquote, List.filter_append, List.filter_append, hquotes.filter_eq,
    Text.trim_surrounded (isPadding_iff.mp hfront) (isPadding_iff.mp hback), unquote]

/-- A literal is what is left of it with quotes and padding put to it. -/
theorem wraps_unquote (t : List Char) : Wraps (unquote t) t := by
  obtain ⟨front, back, hsplit, hfront, hback⟩ := Text.exists_trim (t.filter (· ≠ '\x27'))
  obtain ⟨most, last, rfl, hmost, hlast⟩ := List.filter_eq_append_iff.mp hsplit
  obtain ⟨first, inner, rfl, hfirst, hinner⟩ := List.filter_eq_append_iff.mp hmost
  refine ⟨first, inner, last, rfl, ?_, isPadding_iff.mpr ?_, isPadding_iff.mpr ?_⟩
  · rw [unquote, ← hinner]
    exact quotes_filter inner
  · rwa [hfirst]
  · rwa [hlast]

/-- What is left of a literal made small is what is left of the literal, made small. -/
theorem unquote_lower (s : List Char) : unquote (lower s) = lower (unquote s) := by
  rw [unquote, Text.filter_ne_lower (by decide), Text.trim_lower, unquote]

/-- A literal means true exactly if it is one of the words for it, with quotes and padding. -/
theorem readBool_eq_true_iff : readBool s = true ↔
    ∃ word ∈ trueWords, ∃ core, sameIgnoringCase core word = true ∧ Wraps core s := by
  rw [readBool, List.contains_iff_mem]
  have hwords : ∀ word ∈ trueWords, unquote word = word ∧ lower word = word := by decide
  constructor
  · intro hmem
    refine ⟨_, hmem, unquote s, ?_, wraps_unquote s⟩
    rw [Text.sameIgnoringCase_iff, (hwords _ hmem).2]
  · rintro ⟨word, hmem, core, hsame, hwraps⟩
    obtain ⟨hunquote, hlower⟩ := hwords word hmem
    rw [hwraps.unquote_eq, ← unquote_lower, Text.sameIgnoringCase_iff.mp hsame, hlower, hunquote]
    exact hmem

end Literal

open Literal in
/--
Quotes put in anywhere and padding on both sides never change what a literal is read as, for truth
values, days, times and instants, nor why it cannot be read. A truth value is always read, the same
in either case of letters, and it is true exactly for the words that mean true.
-/
theorem FieldType.readLiteral_wrapped (literal : String) :
    (∀ type ∈ [FieldType.bool, .date, .time, .timestamp], ∀ wrapped : String,
      Wraps literal.toList wrapped.toList →
        type.readLiteral wrapped = type.readLiteral literal) ∧
    (∀ other : String, sameIgnoringCase other.toList literal.toList = true →
      FieldType.bool.readLiteral other = FieldType.bool.readLiteral literal) ∧
    ∃ b, FieldType.bool.readLiteral literal = .ok (.bool b) ∧
      (b = true ↔ ∃ word ∈ ["true", "t", "yes", "y", "on", "1", "b1"], ∃ core : List Char,
        sameIgnoringCase core word.toList = true ∧ Wraps core literal.toList) := by
  refine ⟨fun type htype wrapped hwraps => ?_, fun other hsame => ?_, _, rfl, ?_⟩
  · have hunquote := hwraps.unquote_eq
    simp only [List.mem_cons, List.not_mem_nil, or_false] at htype
    rcases htype with rfl | rfl | rfl | rfl <;> simp only [readLiteral, readBool, hunquote]
  · have hlower : lower (unquote other.toList) = lower (unquote literal.toList) := by
      rw [← unquote_lower, Text.sameIgnoringCase_iff.mp hsame, unquote_lower]
    simp only [readLiteral, readBool, hlower]
  · rw [readBool_eq_true_iff, trueWords]
    constructor
    · rintro ⟨_, hword, hcore⟩
      obtain ⟨word, hmem, rfl⟩ := List.mem_map.mp hword
      exact ⟨word, hmem, hcore⟩
    · rintro ⟨word, hmem, hcore⟩
      exact ⟨word.toList, List.mem_map_of_mem hmem, hcore⟩

open Literal in
/-- An instant between blanks and quotes, and a word for true with quotes in its midst. -/
theorem FieldType.readLiteral_wrapped_of_instant :
    Wraps "2024-02-29 12:00:00".toList "\u3000\x27 2024-02-29\x27 12:00:00\x27\t\x27".toList ∧
      FieldType.timestamp.readLiteral "\u3000\x27 2024-02-29\x27 12:00:00\x27\t\x27" =
        .ok (.timestamp ⟨⟨2024, 2, 29, by decide⟩, ⟨12, 0, 0, 0, by decide⟩⟩) ∧
      FieldType.bool.readLiteral "\x27B\x271\x27\n" = .ok (.bool true) := by
  have hpadding (s : List Char) (h : (s.all fun c => isBlank c || c == '\x27') = true) :
      IsPadding s := by
    simpa [IsPadding] using h
  have hfront : IsPadding "\u3000\x27 ".toList := hpadding _ rfl
  have hback : IsPadding "\x27\t\x27".toList := hpadding _ rfl
  have hquote : IsPadding ['\x27'] := hpadding _ rfl
  have hbreak : IsPadding ['\x27', '\n'] := hpadding _ rfl
  have hday : Quotes "2024-02-29 12:00:00".toList "2024-02-29\x27 12:00:00".toList :=
    quotes_filter "2024-02-29\x27 12:00:00".toList
  have hbit : Quotes "B1".toList "B\x271".toList := quotes_filter "B\x271".toList
  have hwraps : Wraps "2024-02-29 12:00:00".toList
      "\u3000\x27 2024-02-29\x27 12:00:00\x27\t\x27".toList :=
    ⟨_, _, _, rfl, hday, hfront, hback⟩
  obtain ⟨hsame, -, -⟩ := readLiteral_wrapped "2024-02-29 12:00:00"
  obtain ⟨-, -, b, hread, htrue⟩ := readLiteral_wrapped "\x27B\x271\x27\n"
  have hb : b = true :=
    htrue.mpr ⟨"b1", by decide, "B1".toList, by decide, _, _, _, rfl, hbit, hquote, hbreak⟩
  exact ⟨hwraps, (hsame .timestamp (by decide) _ hwraps).trans rfl, hb ▸ hread⟩

end RowCast
