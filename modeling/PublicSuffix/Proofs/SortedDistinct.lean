import PublicSuffix.Domain.Name
import Mathlib.Data.List.Sort

/-!
# Sorted lists without repetition

There is one strictly increasing list with the members of a given one, and `sortedDistinct` is it
(`eq_sortedDistinct`). Sorting puts equal members next to each other, so that leaving out those
that equal the one before leaves each once (`pairwise_eraseReps`).
-/

namespace PublicSuffix

variable {α : Type} {x z : α} {xs ys : List α}

/-! ## Sorting -/

theorem compare_eq_lt_of_isLE [Ord α] [Std.LawfulEqOrd α] (h : (compare x z).isLE = true)
    (hne : x ≠ z) : compare x z = .lt := by
  rcases Ordering.isLE_iff_eq_lt_or_eq_eq.mp h with hlt | heq
  · exact hlt
  · exact absurd (Std.LawfulEqCmp.eq_of_compare heq) hne

theorem pairwise_mergeSort_compare [Ord α] [Std.TransOrd α] (xs : List α) :
    (xs.mergeSort fun a b => (compare a b).isLE).Pairwise
      fun a b => (compare a b).isLE = true := by
  apply List.pairwise_mergeSort
  · intro a b c hab hbc
    exact Std.TransCmp.isLE_trans hab hbc
  · intro a b
    rw [Std.OrientedOrd.eq_swap (a := b) (b := a)]
    cases compare a b <;> rfl

/-! ## Equal neighbours -/

variable [BEq α]

theorem eraseReps_loop (x : α) (xs acc : List α) :
    List.eraseRepsBy.loop (· == ·) x xs acc = acc.reverse ++ (x :: xs).eraseReps := by
  rw [List.eraseReps, List.eraseRepsBy]
  induction xs generalizing x acc with
  | nil => simp [List.eraseRepsBy.loop]
  | cons y xs ih =>
    rw [List.eraseRepsBy.loop, List.eraseRepsBy.loop]
    split
    · exact ih x acc
    · rw [ih y (x :: acc), ih y [x]]
      simp

/-- Of two equal neighbours one is left out. -/
theorem eraseReps_cons_cons (x y : α) (xs : List α) : (x :: y :: xs).eraseReps =
    if x == y then (x :: xs).eraseReps else x :: (y :: xs).eraseReps := by
  conv => lhs; rw [List.eraseReps, List.eraseRepsBy, List.eraseRepsBy.loop]
  split
  · next h =>
    rw [if_pos h]
    rfl
  · next h =>
    rw [if_neg (by simp [h]), eraseReps_loop]
    rfl

theorem mem_eraseReps [LawfulBEq α] : z ∈ xs.eraseReps ↔ z ∈ xs := by
  cases xs with
  | nil => rfl
  | cons x xs =>
    induction xs generalizing x with
    | nil => rfl
    | cons y xs ih =>
      rw [eraseReps_cons_cons]
      split
      · next h =>
        obtain rfl := eq_of_beq h
        rw [ih]
        simp
      · rw [List.mem_cons, ih, ← List.mem_cons]

/-! ## Increasing lists -/

variable [LawfulBEq α] [Ord α] [Std.TransOrd α] [Std.LawfulEqOrd α]

/-- What is left of a sorted list increases strictly. -/
theorem pairwise_eraseReps (h : xs.Pairwise fun a b => (compare a b).isLE = true) :
    xs.eraseReps.Pairwise fun a b => compare a b = .lt := by
  cases xs with
  | nil => exact List.Pairwise.nil
  | cons x xs =>
    induction xs generalizing x with
    | nil => exact List.pairwise_singleton _ _
    | cons y xs ih =>
      obtain ⟨hx, hxs⟩ := List.pairwise_cons.mp h
      rw [eraseReps_cons_cons]
      split
      · next heq =>
        obtain rfl := eq_of_beq heq
        exact ih x hxs
      · next hne =>
        have hlt : compare x y = .lt :=
          compare_eq_lt_of_isLE (hx y List.mem_cons_self) (by simpa using hne)
        refine List.pairwise_cons.mpr ⟨?_, ih y hxs⟩
        intro z hz
        rcases List.mem_cons.mp (mem_eraseReps.mp hz) with rfl | hz
        · exact hlt
        · exact Std.TransCmp.lt_of_lt_of_isLE hlt ((List.pairwise_cons.mp hxs).1 z hz)

theorem pairwise_sortedDistinct (xs : List α) :
    (sortedDistinct xs).Pairwise fun a b => compare a b = .lt :=
  pairwise_eraseReps (pairwise_mergeSort_compare xs)

omit [Std.TransOrd α] [Std.LawfulEqOrd α] in
theorem mem_sortedDistinct : z ∈ sortedDistinct xs ↔ z ∈ xs := by
  rw [sortedDistinct, mem_eraseReps, List.mem_mergeSort]

/-- A strictly increasing list is determined by its members. -/
theorem eq_sortedDistinct (hys : ys.Pairwise fun a b => compare a b = .lt)
    (hmem : ∀ z, z ∈ ys ↔ z ∈ xs) : ys = sortedDistinct xs := by
  have hirrefl : Std.Irrefl fun a b : α => compare a b = .lt :=
    ⟨fun a hlt => absurd (Std.ReflCmp.compare_self.symm.trans hlt) (by decide)⟩
  have hantisymm : Std.Antisymm fun a b : α => compare a b = .lt :=
    ⟨fun a b hab hba => absurd hba (Std.OrientedCmp.not_lt_of_lt hab)⟩
  apply hys.eq_of_mem_iff (pairwise_sortedDistinct xs)
  intro z
  rw [hmem, mem_sortedDistinct]

end PublicSuffix
