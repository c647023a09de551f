import RowCast.Proofs.Digits
import RowCast.Text.Blank

/-!
# Blanks around a text

Trimming takes the blanks at both ends of a text and nothing from between them. A text is therefore
found again between any blanks, and one that begins and ends with other characters stays as it is.
-/

namespace RowCast.Text

variable {s : List Char}

/-- No digit is blank. -/
theorem isBlank_of_isDigit {c : Char} (h : isDigit c = true) : isBlank c = false := by
  have hrange := toNat_of_isDigit h
  simp only [isBlank, blankRanges, List.any_cons, List.any_nil, Bool.or_false,
    Bool.or_eq_false_iff, Bool.and_eq_false_iff, decide_eq_false_iff_not]
  omega

/-- There is nothing to trim before a character that is not blank. -/
theorem trimStart_cons {c : Char} (h : isBlank c = false) (rest : List Char) :
    trimStart (c :: rest) = c :: rest := by
  simp [trimStart, h]

/-- There is nothing to trim in front of a text that does not begin with a blank. -/
theorem trimStart_eq_self (hhead : ∀ c ∈ s.head?, isBlank c = false) : trimStart s = s := by
  cases s with
  | nil => rfl
  | cons c rest => exact trimStart_cons (hhead c rfl) rest

/-- There is nothing to trim from a text that neither begins nor ends with a blank. -/
theorem trim_eq_self (hhead : ∀ c ∈ s.head?, isBlank c = false)
    (hlast : ∀ c ∈ s.getLast?, isBlank c = false) : trim s = s := by
  have hkept : s.reverse.dropWhile isBlank = s.reverse :=
    trimStart_eq_self (List.head?_reverse ▸ hlast)
  rw [trim, trimStart_eq_self hhead, trimEnd, hkept, List.reverse_reverse]

/-- There is nothing to trim from a text without blanks. -/
theorem trim_eq_self_of_forall (h : ∀ c ∈ s, isBlank c = false) : trim s = s :=
  trim_eq_self (fun c hc => h c (List.mem_of_mem_head? hc))
    fun c hc => h c (List.mem_of_mem_getLast? hc)

/-- Blanks around a text go with those that it has at its own ends. -/
theorem trim_surrounded {front back : List Char} (hfront : ∀ c ∈ front, isBlank c = true)
    (hback : ∀ c ∈ back, isBlank c = true) (s : List Char) :
    trim (front ++ s ++ back) = trim s := by
  have hreverse : ∀ c ∈ back.reverse, isBlank c = true := fun c hc =>
    hback c (List.mem_reverse.mp hc)
  have hgone : back.dropWhile isBlank = [] := by
    rw [← List.append_nil back, List.dropWhile_append_of_pos hback]
    rfl
  rw [trim, trim, trimStart, trimStart, List.append_assoc, List.dropWhile_append_of_pos hfront,
    List.dropWhile_append]
  split
  · next hempty => rw [List.isEmpty_iff.mp hempty, hgone]
  · rw [trimEnd, List.reverse_append, List.dropWhile_append_of_pos hreverse, trimEnd]

/-- A text is what is left of it between the blanks that were trimmed from its ends. -/
theorem exists_trim (s : List Char) : ∃ front back, s = front ++ trim s ++ back ∧
    (∀ c ∈ front, isBlank c = true) ∧ ∀ c ∈ back, isBlank c = true := by
  have hblank {r : List Char} (c : Char) (hc : c ∈ r.takeWhile isBlank) : isBlank c = true :=
    List.all_eq_true.mp List.all_takeWhile c hc
  refine ⟨s.takeWhile isBlank, ((trimStart s).reverse.takeWhile isBlank).reverse, ?_, hblank,
    fun c hc => hblank c (List.mem_reverse.mp hc)⟩
  rw [trim, trimEnd, List.append_assoc, ← List.reverse_append, List.takeWhile_append_dropWhile,
    List.reverse_reverse, trimStart, List.takeWhile_append_dropWhile]

end RowCast.Text
