import RowCast.Text.Blank
import RowCast.Text.CaseFold

/-!
# Texts apart from the case of letters

Making ASCII capitals small changes no other character. Blanks and quotes therefore stay what they
are, and a word of small letters is found in a text made small exactly where the text has the word
in some case.
-/

namespace RowCast.Text

/-- Making a character small changes nothing but capitals, and these to small letters. -/
theorem toLower_cases (c : Char) :
    c.toLower = c ∨ 65 ≤ c.toNat ∧ c.toNat ≤ 90 ∧ c.toLower.toNat = c.toNat + 32 := by
  by_cases hcapital : c.val ≥ 'A'.val ∧ c.val ≤ 'Z'.val
  · have hlow : 65 ≤ c.toNat := UInt32.le_iff_toNat_le.mp hcapital.1
    have hhigh : c.toNat ≤ 90 := UInt32.le_iff_toNat_le.mp hcapital.2
    refine .inr ⟨hlow, hhigh, ?_⟩
    have hsmall : c.toLower.val = c.val + 32 := congrArg Char.val (dif_pos hcapital)
    change c.toLower.val.toNat = c.toNat + 32
    rw [hsmall, UInt32.toNat_add]
    exact Nat.mod_eq_of_lt (by change c.toNat + 32 < 4294967296; omega)
  · exact .inl (dif_neg hcapital)

/-- A character is blank in either case. -/
@[simp] theorem isBlank_toLower (c : Char) : isBlank c.toLower = isBlank c := by
  rcases toLower_cases c with hsame | ⟨hlow, hhigh, hsmall⟩
  · rw [hsame]
  · -- Neither capitals nor small letters are in any of the ranges.
    have hletter : ∀ d : Char, 65 ≤ d.toNat → d.toNat ≤ 122 → isBlank d = false := by
      intro d hd hd'
      simp only [isBlank, blankRanges, List.any_cons, List.any_nil, Bool.or_false,
        Bool.or_eq_false_iff, Bool.and_eq_false_iff, decide_eq_false_iff_not]
      omega
    rw [hletter c hlow (by omega), hletter c.toLower (by omega) (by omega)]

/-- A character that comes before the capitals is another in either case. -/
theorem toLower_eq_iff {c d : Char} (hd : d.toNat < 65) : c.toLower = d ↔ c = d := by
  rcases toLower_cases c with hsame | ⟨hlow, hhigh, hsmall⟩
  · rw [hsame]
  · constructor
    · rintro rfl
      omega
    · rintro rfl
      omega

/-- Making a text small does not change which blanks stand at its ends. -/
theorem trim_lower (s : List Char) : trim (lower s) = lower (trim s) := by
  have hblank : isBlank ∘ Char.toLower = isBlank := funext isBlank_toLower
  have hstart (r : List Char) : (r.map Char.toLower).dropWhile isBlank =
      (r.dropWhile isBlank).map Char.toLower := by
    rw [List.dropWhile_map, hblank]
  simp only [trim, trimEnd, trimStart, lower, hstart, ← List.map_reverse]

/-- Making a text small does not change where another character stands that has no case. -/
theorem filter_ne_lower {d : Char} (hd : d.toNat < 65) (s : List Char) :
    (lower s).filter (· ≠ d) = lower (s.filter (· ≠ d)) := by
  have hkept : (fun c => decide (c ≠ d)) ∘ Char.toLower = fun c => decide (c ≠ d) := by
    funext c
    simp only [Function.comp_apply, ne_eq, toLower_eq_iff hd]
  rw [lower, List.filter_map, hkept, lower]

/-- Texts are the same ignoring case if they are the same once made small. -/
theorem sameIgnoringCase_iff {a b : List Char} : sameIgnoringCase a b = true ↔ lower a = lower b :=
  beq_iff_eq

/-- Whether a text begins with a word, in whatever case its letters are. -/
def BeginsWith (word s : List Char) : Prop :=
  ∃ front back, s = front ++ back ∧ sameIgnoringCase front word = true

/-- Whether a text has a word somewhere, in whatever case its letters are. -/
def Mentions (word s : List Char) : Prop :=
  ∃ before part after, s = before ++ part ++ after ∧ sameIgnoringCase part word = true

/-- A text occurs in another if this is made of it and of what stands before and behind. -/
theorem occursIn_iff {part s : List Char} : occursIn part s = true ↔ part <:+: s := by
  induction s with
  | nil => simp [occursIn]
  | cons c rest ih =>
    rw [occursIn, Bool.or_eq_true, ih, List.infix_cons_iff, List.isPrefixOf_iff_prefix]

variable {word s : List Char}

/-- A word of small letters is at the front of a text made small if the text begins with it. -/
theorem isPrefixOf_lower_iff (hword : lower word = word) :
    word.isPrefixOf (lower s) = true ↔ BeginsWith word s := by
  rw [List.isPrefixOf_iff_prefix]
  constructor
  · rintro ⟨tail, htail⟩
    obtain ⟨front, back, rfl, hfront, -⟩ := List.map_eq_append_iff.mp htail.symm
    exact ⟨front, back, rfl, sameIgnoringCase_iff.mpr (Eq.trans hfront hword.symm)⟩
  · rintro ⟨front, back, rfl, hsame⟩
    refine ⟨lower back, ?_⟩
    rw [← hword, ← sameIgnoringCase_iff.mp hsame, lower, lower, lower, List.map_append]

/-- A word of small letters occurs in a text made small if the text mentions it. -/
theorem occursIn_lower_iff (hword : lower word = word) :
    occursIn word (lower s) = true ↔ Mentions word s := by
  rw [occursIn_iff]
  constructor
  · rintro ⟨first, last, hall⟩
    obtain ⟨most, after, rfl, hmost, -⟩ := List.map_eq_append_iff.mp hall.symm
    obtain ⟨before, part, rfl, -, hpart⟩ := List.map_eq_append_iff.mp hmost
    exact ⟨before, part, after, rfl, sameIgnoringCase_iff.mpr (Eq.trans hpart hword.symm)⟩
  · rintro ⟨before, part, after, rfl, hsame⟩
    refine ⟨lower before, lower after, ?_⟩
    rw [← hword, ← sameIgnoringCase_iff.mp hsame]
    simp only [lower, List.map_append]

end RowCast.Text
