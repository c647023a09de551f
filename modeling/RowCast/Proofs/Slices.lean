import Mathlib.Algebra.Group.Nat.Defs
import RowCast.Source.Table

/-!
# Slices of large objects

A read of a large object answers the units at the positions from its offset on, as many as are asked
for and as there are. Machine words compute the same range: a sum that would pass the greatest word
stays there, the end is cut off at the length, and a range that begins behind its end is empty.
-/

namespace RowCast

namespace TableHandle

variable {υ : Type}

/-- The units of a content at the positions from `first` on, up to and without `last`. -/
def unitsBetween (first last : Nat) (content : List υ) : List υ :=
  (content.zipIdx.filter fun u => first ≤ u.2 ∧ u.2 < last).map Prod.fst

/-- The units between two positions of what stands behind the first `k` units of a content. -/
theorem unitsBetween_from (first last k : Nat) (content : List υ) :
    ((content.zipIdx k).filter fun u => first ≤ u.2 ∧ u.2 < last).map Prod.fst =
      (content.drop (first - k)).take (last - max first k) := by
  -- Up to `first` each unit is one less to drop, and from there on one less to take.
  induction content generalizing k with
  | nil => simp
  | cons c rest ih =>
    rw [List.zipIdx_cons, List.filter_cons]
    by_cases hfirst : first ≤ k
    · have hmax : max first k = k := Nat.max_eq_right hfirst
      have hmax' : max first (k + 1) = k + 1 := Nat.max_eq_right (Nat.le_succ_of_le hfirst)
      have hdrop : first - k = 0 := Nat.sub_eq_zero_of_le hfirst
      have hdrop' : first - (k + 1) = 0 := Nat.sub_eq_zero_of_le (Nat.le_succ_of_le hfirst)
      by_cases hlast : k < last
      · have htake : last - k = last - (k + 1) + 1 := by omega
        simp only [hfirst, hlast, and_self, decide_true, if_true, List.map_cons, ih, hdrop, hdrop',
          hmax, hmax', htake, List.drop_zero, List.take_succ_cons]
      · have htake : last - k = 0 := by omega
        have htake' : last - (k + 1) = 0 := by omega
        simp only [hlast, and_false, decide_false, Bool.false_eq_true, if_false, ih, hmax, hmax',
          htake, htake', List.take_zero]
    · have hmax : max first k = max first (k + 1) := by omega
      have hdrop : first - k = first - (k + 1) + 1 := by omega
      simp only [hfirst, false_and, decide_false, Bool.false_eq_true, if_false, ih, hmax, hdrop,
        List.drop_succ_cons]

/-- A slice has the units at the positions from its offset on that are asked for and exist. -/
theorem slice_eq_unitsBetween (h : TableHandle υ) (offset count : Nat) :
    h.slice offset count = unitsBetween offset (offset + count) h.content := by
  have hfrom := unitsBetween_from offset (offset + count) 0 h.content
  rw [unitsBetween, hfrom, slice, Nat.max_eq_left (Nat.zero_le _), Nat.sub_zero,
    Nat.add_sub_cancel_left]

/-- Two slices, the second from where the first ends, make one slice. -/
theorem slice_append (h : TableHandle υ) (offset a b : Nat) :
    h.slice offset a ++ h.slice (offset + a) b = h.slice offset (a + b) := by
  rw [slice, slice, slice, List.take_add, List.drop_drop]

/-- The sum of two words, or the greatest word where the sum passes it. -/
def saturatingSum (a b : UInt64) : UInt64 :=
  if a + b < a then 0xFFFFFFFFFFFFFFFF else a + b

/-- The slice as machine words compute its range. -/
def sliceInWords (h : TableHandle υ) (offset count : UInt64) : List υ :=
  let last := min (saturatingSum offset count).toNat h.content.length
  if offset.toNat ≤ last then (h.content.take last).drop offset.toNat else []

/-- A saturating sum is the sum of the numbers, cut off at the greatest word. -/
theorem toNat_saturatingSum (a b : UInt64) :
    (saturatingSum a b).toNat = min (a.toNat + b.toNat) (2 ^ 64 - 1) := by
  have ha := a.toNat_lt
  have hb := b.toNat_lt
  have hsum : (a + b).toNat = (a.toNat + b.toNat) % 2 ^ 64 := UInt64.toNat_add a b
  unfold saturatingSum
  split
  · next hwrapped =>
    rw [UInt64.lt_iff_toNat_lt, hsum] at hwrapped
    change 2 ^ 64 - 1 = _
    omega
  · next hkept =>
    rw [UInt64.lt_iff_toNat_lt, hsum] at hkept
    rw [hsum]
    omega

/-- Machine words compute the slice, whatever sums they meet, if they can count the units. -/
theorem sliceInWords_eq {h : TableHandle υ} (hlength : h.content.length < 2 ^ 64)
    (offset count : UInt64) :
    h.sliceInWords offset count = h.slice offset.toNat count.toNat := by
  have hlast : min (saturatingSum offset count).toNat h.content.length =
      min (offset.toNat + count.toNat) h.content.length := by
    rw [toNat_saturatingSum]
    omega
  unfold sliceInWords slice
  dsimp only
  rw [hlast]
  split
  · have hcut : min (offset.toNat + count.toNat) h.content.length - offset.toNat =
        min count.toNat (h.content.drop offset.toNat).length := by
      rw [List.length_drop]
      omega
    rw [List.drop_take, hcut, ← List.take_eq_take_min]
  · have hbehind : h.content.length ≤ offset.toNat := by omega
    rw [List.drop_of_length_le hbehind, List.take_nil]

end TableHandle

end RowCast
