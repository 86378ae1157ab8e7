import IamAuth.Relational.Order
import Mathlib.Data.List.Sort

/-!
# ORDER BY and LIMIT

What the first rows of a table ordered by a column hold, and in which order.
-/

set_option autoImplicit false

namespace Relational

variable {α κ : Type} [LinearOrder κ] {key : α → κ} {xs : List α} {a b : α} {n : Nat}

/-- What comes before one of the first rows is one of them. -/
theorem before_take (h : Before xs a b) (hxs : xs.Nodup) (hb : b ∈ xs.take n) :
    Before (xs.take n) a b := by
  have hsplit := List.take_append_drop n xs
  have ha : a ∈ xs.take n := by
    have hin := h.left
    rw [← hsplit] at hin
    rcases List.mem_append.mp hin with hfirst | hlast
    · exact hfirst
    · have hback : Before (xs.take n ++ xs.drop n) b a := before_append hb hlast
      rw [hsplit] at hback
      exact absurd hback (h.asymm hxs)
  exact h.of_sublist hxs (List.take_sublist n xs) ha hb

/-- Of two rows the one with the smaller column comes first. -/
theorem before_limit (key : α → κ) (ha : a ∈ xs) (hxs : xs.Nodup) (hlt : key a < key b)
    (hb : b ∈ (xs.insertionSort fun x y => key x ≤ key y).take n) :
    Before ((xs.insertionSort fun x y => key x ≤ key y).take n) a b := by
  have hsorted := List.pairwise_insertionSort (fun x y : α => key x ≤ key y) xs
  have hnodup : (xs.insertionSort fun x y => key x ≤ key y).Nodup :=
    (List.perm_insertionSort _ xs).nodup_iff.mpr hxs
  have hne : a ≠ b := by
    rintro rfl
    exact lt_irrefl _ hlt
  have hin : a ∈ xs.insertionSort fun x y => key x ≤ key y := (List.mem_insertionSort _).mpr ha
  rcases before_or hin (List.mem_of_mem_take hb) hne with h | h
  · exact before_take h hnodup hb
  · -- The other order contradicts the sorting.
    have hle : key b ≤ key a := by
      have hpair := hsorted.sublist h
      exact (List.pairwise_cons.mp hpair).1 a (by simp)
    exact absurd hlt (not_lt_of_ge hle)

end Relational
