import Mathlib.Data.List.Nodup
import Mathlib.Tactic.Common

/-!
# Lists in the order of a number

Positions, node numbers and times order the lists of the library. A number that grows strictly
names at most one member, and a lower part of an ordered list is a beginning of it.
-/

namespace PublicSuffix

variable {α : Type} {f : α → Nat} {xs : List α}

theorem eq_of_pairwise_lt (h : xs.Pairwise fun x y => f x < f y) {x y : α} (hx : x ∈ xs)
    (hy : y ∈ xs) (hxy : f x = f y) : x = y := by
  have hnodup : (xs.map f).Nodup := List.pairwise_map.mpr (h.imp Nat.ne_of_lt)
  exact List.inj_on_of_nodup_map hnodup hx hy hxy

/-- What holds of every member and the later ones holds of all with a greater number. -/
theorem rel_of_pairwise_lt {R : α → α → Prop} (h : xs.Pairwise fun x y => f x < f y)
    (hR : xs.Pairwise R) {x y : α} (hx : x ∈ xs) (hy : y ∈ xs) (hxy : f x < f y) : R x y := by
  have hle : xs.Pairwise fun x y => f x < f y → R x y := by
    refine hR.imp ?_
    exact fun hxy _ => hxy
  have hge : xs.Pairwise (flip fun x y => f x < f y → R x y) :=
    h.imp fun hlt hgt => absurd hgt (Nat.lt_asymm hlt)
  exact hle.forall_of_forall_of_flip (fun _ _ hlt => absurd hlt (Nat.lt_irrefl _)) hge hx hy hxy

theorem nodup_of_pairwise_lt (h : xs.Pairwise fun x y => f x < f y) : xs.Nodup :=
  h.imp fun hxy heq => Nat.ne_of_lt hxy (congrArg f heq)

/-- The members that pass a test which lower numbers pass too come first. -/
theorem filter_isPrefix_of_pairwise_le (h : xs.Pairwise fun x y => f x ≤ f y) {P : Nat → Bool}
    (hP : ∀ m n, m ≤ n → P n = true → P m = true) : xs.filter (fun x => P (f x)) <+: xs := by
  induction xs with
  | nil => exact List.prefix_refl _
  | cons x xs ih =>
    obtain ⟨hx, hxs⟩ := List.pairwise_cons.mp h
    by_cases hPx : P (f x) = true
    · rw [List.filter_cons_of_pos (p := fun x => P (f x)) hPx, List.cons_prefix_cons]
      exact ⟨rfl, ih hxs⟩
    · have hnone : xs.filter (fun y => P (f y)) = [] :=
        List.filter_eq_nil_iff.mpr fun y hy hPy => hPx (hP _ _ (hx y hy) hPy)
      rw [List.filter_cons_of_neg (p := fun x => P (f x)) hPx, hnone]
      exact List.nil_prefix

end PublicSuffix
