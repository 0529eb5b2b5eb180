import PublicSuffix.Document.Walk
import PublicSuffix.Proofs.Ordered
import Mathlib.Data.List.Pairwise

/-!
# Preorder numbers

The numbers of a listing grow from one node to the next, so a number names at most one node. A
block that is listed from `start` on uses the numbers from `start` up to its size further on; that
bound keeps the numbers of neighbours apart. What a walk selects from a listing keeps its order.
-/

namespace PublicSuffix

/-! ## Listings in the order of their numbers -/

/-- The numbers of a listing grow strictly. -/
def Increasing {α : Type} (xs : List (Located α)) : Prop :=
  xs.Pairwise fun x y => x.index < y.index

section Listings

variable {α β : Type} {xs : List (Located α)}

theorem Increasing.eq_of_index_eq (h : Increasing xs) {x y : Located α} (hx : x ∈ xs)
    (hy : y ∈ xs) (hxy : x.index = y.index) : x = y :=
  eq_of_pairwise_lt h hx hy hxy

/-- A relation that does not mind the order holds of all pairs of neighbours far and near, or of
any two different nodes: these are the same. -/
theorem Increasing.pairwise_iff (h : Increasing xs) {R : Located α → Located α → Prop}
    (hsymm : ∀ x y, R x y → R y x) :
    xs.Pairwise R ↔ ∀ x ∈ xs, ∀ y ∈ xs, x.index ≠ y.index → R x y := by
  constructor
  · intro hR
    have hle : xs.Pairwise fun x y => x.index ≠ y.index → R x y := by
      refine hR.imp ?_
      exact fun hxy _ => hxy
    have hge : xs.Pairwise (flip fun x y => x.index ≠ y.index → R x y) := by
      refine hR.imp ?_
      exact fun hxy _ => hsymm _ _ hxy
    intro x hx y hy
    exact hle.forall_of_forall_of_flip (fun _ _ hne => absurd rfl hne) hge hx hy
  · intro hR
    exact List.Pairwise.imp_of_mem (fun hx hy hlt => hR _ hx _ hy (Nat.ne_of_lt hlt)) h

theorem mem_select {f : α → Option β} {y : Located β} :
    y ∈ select f xs ↔ ∃ v, ⟨y.index, v⟩ ∈ xs ∧ f v = some y.value := by
  simp only [select, List.mem_filterMap, Option.map_eq_some_iff]
  constructor
  · rintro ⟨x, hx, v, hv, rfl⟩
    exact ⟨x.value, hx, hv⟩
  · rintro ⟨v, hx, hv⟩
    exact ⟨_, hx, y.value, hv, rfl⟩

theorem forall_mem_select {f : α → Option β} {P : Located β → Prop} :
    (∀ y ∈ select f xs, P y) ↔ ∀ x ∈ xs, ∀ v, f x.value = some v → P ⟨x.index, v⟩ := by
  constructor
  · intro h x hx v hv
    exact h ⟨x.index, v⟩ (mem_select.mpr ⟨x.value, hx, hv⟩)
  · intro h y hy
    obtain ⟨v, hv, hvy⟩ := mem_select.mp hy
    exact h _ hv _ hvy

theorem Increasing.select (h : Increasing xs) (f : α → Option β) :
    Increasing (select f xs) := by
  refine List.Pairwise.filterMap _ (fun x y hxy x' hx y' hy => ?_) h
  obtain ⟨_, _, rfl⟩ := Option.map_eq_some_iff.mp hx
  obtain ⟨_, _, rfl⟩ := Option.map_eq_some_iff.mp hy
  exact hxy

theorem Increasing.index_le_of_find? (h : Increasing xs) {f : Located α → Bool} {x y : Located α}
    (hx : xs.find? f = some x) (hy : y ∈ xs) (hf : f y = true) : x.index ≤ y.index := by
  obtain ⟨_, pre, post, rfl, hpre⟩ := List.find?_eq_some_iff_append.mp hx
  rcases List.mem_append.mp hy with hy | hy
  · have hnot := hpre y hy
    simp [hf] at hnot
  · rcases List.mem_cons.mp hy with rfl | hy
    · exact Nat.le_refl _
    · have hpost := (List.pairwise_append.mp h).2.1
      exact Nat.le_of_lt ((List.pairwise_cons.mp hpost).1 y hy)

/-- What `find?` returns has the least number of all that pass its test. -/
theorem Increasing.find?_eq_some_iff (h : Increasing xs) {f : Located α → Bool} {x : Located α} :
    xs.find? f = some x ↔ x ∈ xs ∧ f x = true ∧ ∀ y ∈ xs, f y = true → x.index ≤ y.index := by
  constructor
  · intro hx
    exact ⟨List.mem_of_find?_eq_some hx, List.find?_some hx,
      fun y hy hf => h.index_le_of_find? hx hy hf⟩
  · rintro ⟨hx, hf, hleast⟩
    cases hfind : xs.find? f with
    | none => exact absurd hf (List.find?_eq_none.mp hfind x hx)
    | some y =>
      have hy := List.mem_of_find?_eq_some hfind
      have hle := h.index_le_of_find? hfind hx hf
      have hge := hleast y hy (List.find?_some hfind)
      rw [h.eq_of_index_eq hx hy (Nat.le_antisymm hge hle)]

/-- What `getLast?` returns has the greatest number. -/
theorem Increasing.getLast?_eq_some_iff (h : Increasing xs) {x : Located α} :
    xs.getLast? = some x ↔ x ∈ xs ∧ ∀ y ∈ xs, y.index ≤ x.index := by
  have hlast : ∀ z, xs.getLast? = some z → z ∈ xs ∧ ∀ y ∈ xs, y.index ≤ z.index := by
    intro z hz
    obtain ⟨init, rfl⟩ := List.getLast?_eq_some_iff.mp hz
    refine ⟨List.mem_append_right _ List.mem_cons_self, fun y hy => ?_⟩
    rcases List.mem_append.mp hy with hy | hy
    · exact Nat.le_of_lt ((List.pairwise_append.mp h).2.2 y hy z List.mem_cons_self)
    · obtain rfl := List.mem_singleton.mp hy
      exact Nat.le_refl _
  constructor
  · exact hlast x
  · rintro ⟨hx, hgreatest⟩
    cases hz : xs.getLast? with
    | none =>
      rw [List.getLast?_eq_none_iff.mp hz] at hx
      cases hx
    | some z =>
      obtain ⟨hmem, hge⟩ := hlast z hz
      rw [h.eq_of_index_eq hx hmem (Nat.le_antisymm (hge x hx) (hgreatest z hmem))]

end Listings

/-! ## The numbers of a block -/

mutual

theorem Block.index_of_mem_located {start : Nat} {x : Located Block} :
    (b : Block) → x ∈ b.located start → start ≤ x.index ∧ x.index < start + b.size
  | .group h bs => by
    intro hx
    rw [Block.located, List.mem_cons] at hx
    rw [Block.size]
    rcases hx with rfl | hx
    · dsimp only
      omega
    · have := Block.index_of_mem_locatedAll bs hx
      omega
  | .entry e => by
    intro hx
    rw [Block.located, List.mem_singleton] at hx
    subst hx
    rw [Block.size]
    dsimp only
    omega

theorem Block.index_of_mem_locatedAll {start : Nat} {x : Located Block} :
    (bs : List Block) → x ∈ Block.locatedAll start bs →
      start ≤ x.index ∧ x.index < start + Block.sizeAll bs
  | [] => by simp [Block.locatedAll]
  | b :: bs => by
    intro hx
    rw [Block.locatedAll, List.mem_append] at hx
    rw [Block.sizeAll]
    rcases hx with hx | hx
    · have := Block.index_of_mem_located b hx
      omega
    · have := Block.index_of_mem_locatedAll bs hx
      omega

end

mutual

theorem Block.increasing_located (start : Nat) : (b : Block) → Increasing (b.located start)
  | .group h bs => by
    rw [Block.located]
    refine List.pairwise_cons.mpr ⟨fun x hx => ?_, Block.increasing_locatedAll (start + 1) bs⟩
    exact (Block.index_of_mem_locatedAll bs hx).1
  | .entry e => by
    rw [Block.located]
    exact List.pairwise_singleton _ _

theorem Block.increasing_locatedAll (start : Nat) :
    (bs : List Block) → Increasing (Block.locatedAll start bs)
  | [] => List.Pairwise.nil
  | b :: bs => by
    rw [Block.locatedAll]
    refine List.pairwise_append.mpr
      ⟨Block.increasing_located start b, Block.increasing_locatedAll _ bs, fun x hx y hy => ?_⟩
    have hx := Block.index_of_mem_located b hx
    have hy := Block.index_of_mem_locatedAll bs hy
    omega

end

theorem Block.opensSection_iff {b : Block} {name : String} :
    b.opensSection name = true ↔ ∃ s, b.section? = some s ∧ s.name = name := by
  unfold opensSection
  cases b.section? with
  | none => simp
  | some s => simp

/-! ## The numbers of a list -/

namespace SuffixList

theorem increasing_located (l : SuffixList) : Increasing l.located :=
  Block.increasing_locatedAll 1 l.blocks

theorem increasing_sections (l : SuffixList) : Increasing l.sections :=
  l.increasing_located.select _

theorem increasing_suffixes (l : SuffixList) : Increasing l.suffixes :=
  l.increasing_located.select _

theorem increasing_wildcards (l : SuffixList) : Increasing l.wildcards :=
  l.increasing_located.select _

end SuffixList

end PublicSuffix
