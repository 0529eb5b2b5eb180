import PublicSuffix.Proofs.Offline.Rivals

/-!
# Which pairs a scan reports

`Stands` says in terms of blocks what a scan remembers of one key, and `mem_scan_iff` which pairs it
therefore reports: a block with the one that stands for the earlier blocks of its key, if one of the
two is changed. A block is never held against two others, so of three blocks with one key a pair may
go unreported; but a changed block is in a reported pair as soon as there is another one with its
key (`exists_pair_of_changed`).
-/

namespace PublicSuffix.Uniqueness

variable {κ α : Type} (u : Uniqueness κ α)
variable {xs ys : List (Located α)} {x y : Located α} {k : κ}

/-! ## What stands for the blocks of one key -/

/-- `y` stands for the blocks `ys`: it is the first and changed, or the first is unchanged and `y`
is the last unchanged one. -/
inductive Stands (ys : List (Located α)) (y : Located α) : Prop where
  | first (hmem : y ∈ ys) (hchanged : u.changed y.value = true)
    (hfirst : ∀ z ∈ ys, y.index ≤ z.index)
  | last {f : Located α} (hf : f ∈ ys) (hfchanged : u.changed f.value = false)
    (hfirst : ∀ z ∈ ys, f.index ≤ z.index) (hmem : y ∈ ys) (hchanged : u.changed y.value = false)
    (hlast : ∀ z ∈ ys, y.index < z.index → u.changed z.value = true)

variable {u} in
theorem Stands.mem (h : u.Stands ys y) : y ∈ ys := by
  cases h with
  | first hmem => exact hmem
  | last _ _ _ hmem => exact hmem

theorem stands_of_forall_eq (hy : y ∈ ys) (h : ∀ z ∈ ys, z = y) : u.Stands ys y := by
  have hfirst : ∀ z ∈ ys, y.index ≤ z.index := fun z hz => Nat.le_of_eq (by rw [h z hz])
  by_cases hchanged : u.changed y.value = true
  · exact .first hy hchanged hfirst
  · rw [Bool.not_eq_true] at hchanged
    refine .last hy hchanged hfirst hy hchanged fun z hz hlt => ?_
    rw [h z hz] at hlt
    exact absurd hlt (Nat.lt_irrefl _)

theorem standing_eq_some_iff (h : Increasing ys) : u.standing ys = some y ↔ u.Stands ys y := by
  cases ys with
  | nil =>
    constructor
    · intro hy
      cases hy
    · intro hy
      cases hy.mem
  | cons f rest =>
    have hle : ∀ z ∈ f :: rest, f.index ≤ z.index := fun z hz => by
      rcases List.mem_cons.mp hz with rfl | hz
      · exact Nat.le_refl _
      · exact Nat.le_of_lt ((List.pairwise_cons.mp h).1 z hz)
    -- only `f` can be the first
    have hfirst : ∀ z ∈ f :: rest, (∀ w ∈ f :: rest, z.index ≤ w.index) → z = f := fun z hz hz' =>
      h.eq_of_index_eq hz List.mem_cons_self
        (Nat.le_antisymm (hz' f List.mem_cons_self) (hle z hz))
    rw [standing]
    by_cases hf : u.changed f.value = true
    · rw [if_pos hf, Option.some.injEq]
      constructor
      · rintro rfl
        exact .first List.mem_cons_self hf hle
      · rintro (⟨hmem, -, hy⟩ | ⟨hg, hgchanged, hg', -⟩)
        · exact (hfirst y hmem hy).symm
        · rw [hfirst _ hg hg', hf] at hgchanged
          cases hgchanged
    · have hfilter : Increasing ((f :: rest).filter fun z => !u.changed z.value) := h.filter _
      rw [if_neg hf, hfilter.getLast?_eq_some_iff]
      simp only [List.mem_filter, Bool.not_eq_eq_eq_not, Bool.not_true, and_imp]
      rw [Bool.not_eq_true] at hf
      constructor
      · rintro ⟨⟨hmem, hy⟩, hlast⟩
        refine .last List.mem_cons_self hf hle hmem hy fun z hz hlt => ?_
        by_contra hz'
        exact Nat.not_le_of_lt hlt (hlast z hz (by simpa using hz'))
      · rintro (⟨hmem, hy, hy'⟩ | ⟨-, -, -, hmem, hy, hlast⟩)
        · rw [hfirst y hmem hy', hf] at hy
          cases hy
        · refine ⟨⟨hmem, hy⟩, fun z hz hz' => Nat.le_of_not_lt fun hlt => ?_⟩
          rw [hlast z hz hlt] at hz'
          cases hz'

theorem exists_stands (h : Increasing ys) (hne : ys ≠ []) : ∃ y, u.Stands ys y := by
  obtain ⟨y, hy⟩ := u.exists_standing hne
  exact ⟨y, (u.standing_eq_some_iff h).mp hy⟩

/-- What stands for some blocks is changed exactly if the first of them is. -/
theorem exists_stands_changed_iff : (∃ y, u.Stands ys y ∧ u.changed y.value = true) ↔
    ∃ f ∈ ys, u.changed f.value = true ∧ ∀ z ∈ ys, f.index ≤ z.index := by
  constructor
  · rintro ⟨y, ⟨hmem, hchanged, hfirst⟩ | ⟨-, -, -, -, hunchanged, -⟩, hy⟩
    · exact ⟨y, hmem, hchanged, hfirst⟩
    · rw [hunchanged] at hy
      cases hy
  · rintro ⟨f, hf, hchanged, hfirst⟩
    exact ⟨f, .first hf hchanged hfirst, hchanged⟩

/-! ## The pairs of a scan -/

variable [DecidableEq κ]

theorem increasing_peers (h : Increasing xs) (k : κ) : Increasing (u.peers xs k) := h.filter _

/-- The blocks before `x` that have its key. -/
def earlier (xs : List (Located α)) (x : Located α) : List (Located α) :=
  u.peers (xs.filter fun z => z.index < x.index) (u.key x.value)

theorem mem_earlier : y ∈ u.earlier xs x ↔ y ∈ xs ∧ y.index < x.index ∧
    u.eligible y.value = true ∧ u.key y.value = u.key x.value := by
  simp [earlier, mem_peers, and_assoc]

theorem increasing_earlier (h : Increasing xs) (x : Located α) : Increasing (u.earlier xs x) :=
  u.increasing_peers (h.filter _) _

theorem filter_before_concat (h : Increasing (xs ++ [x])) :
    (xs ++ [x]).filter (fun z => z.index < x.index) = xs := by
  have hlt := (List.pairwise_append.mp h).2.2
  rw [List.filter_append, List.filter_eq_self.mpr fun z hz => decide_eq_true
    (hlt z hz x List.mem_cons_self)]
  simp

theorem filter_before_append (h : Increasing (xs ++ [x])) (hy : y ∈ xs) :
    (xs ++ [x]).filter (fun z => z.index < y.index) = xs.filter fun z => z.index < y.index := by
  have hlt : y.index < x.index := (List.pairwise_append.mp h).2.2 y hy x List.mem_cons_self
  have hge : ¬x.index < y.index := Nat.lt_asymm hlt
  simp [List.filter_append, hge]

/-- A scan compares each block with the representatives of what comes before it. -/
theorem scan_eq_map (h : Increasing xs) :
    u.scan xs = xs.map fun x =>
      (x, u.rival? (u.representatives (xs.filter fun z => z.index < x.index)) x) := by
  induction xs using List.reverseRecOn with
  | nil => rfl
  | append_singleton xs x ih =>
    rw [scan_concat, ih (List.pairwise_append.mp h).1, List.map_append, List.map_singleton,
      filter_before_concat h]
    congr 1
    apply List.map_congr_left
    intro y hy
    rw [filter_before_append h hy]

/-- **The pairs that a scan reports**: a block with the one that stands for the earlier blocks of
its key, if one of the two is changed. -/
theorem mem_scan_iff (h : Increasing xs) : (x, some y) ∈ u.scan xs ↔
    x ∈ xs ∧ u.eligible x.value = true ∧ u.Stands (u.earlier xs x) y ∧
      (u.changed x.value = true ∨ u.changed y.value = true) := by
  have hmap : (x, some y) ∈ u.scan xs ↔ x ∈ xs ∧
      u.rival? (u.representatives (xs.filter fun z => z.index < x.index)) x = some y := by
    rw [u.scan_eq_map h, List.mem_map]
    simp only [Prod.mk.injEq, ↓existsAndEq, true_and]
  rw [hmap, u.rival?_eq_some_iff, find?_representatives,
    ← u.standing_eq_some_iff (u.increasing_earlier h x)]
  rfl

theorem nodup_scan (h : Increasing xs) : (u.scan xs).Nodup := by
  refine List.Nodup.of_map (·.1) ?_
  rw [map_fst_scan]
  exact nodup_of_pairwise_lt h

/-- A changed block that is not the only one with its key is in a reported pair. -/
theorem exists_pair_of_changed (h : Increasing xs) (hx : x ∈ xs) (hy : y ∈ xs)
    (hxe : u.eligible x.value = true) (hye : u.eligible y.value = true)
    (hne : y.index ≠ x.index) (hkey : u.key y.value = u.key x.value)
    (hchanged : u.changed x.value = true) :
    ∃ z ∈ xs, u.key z.value = u.key x.value ∧
      ((x, some z) ∈ u.scan xs ∨ (z, some x) ∈ u.scan xs) := by
  by_cases hearlier : u.earlier xs x = []
  · -- nothing with its key comes before `x`, so `x` stands for the key when the scan is at `y`
    have hfirst : ∀ z ∈ u.earlier xs y, x.index ≤ z.index := fun z hz => by
      obtain ⟨hz, -, hze, hzkey⟩ := u.mem_earlier.mp hz
      by_contra hlt
      have hmem : z ∈ u.earlier xs x :=
        u.mem_earlier.mpr ⟨hz, Nat.lt_of_not_le hlt, hze, hzkey.trans hkey⟩
      rw [hearlier] at hmem
      cases hmem
    have hlt : x.index < y.index := by
      rcases Nat.lt_or_gt_of_ne hne with hlt | hgt
      · have hmem : y ∈ u.earlier xs x := u.mem_earlier.mpr ⟨hy, hlt, hye, hkey⟩
        rw [hearlier] at hmem
        cases hmem
      · exact hgt
    have hstands : u.Stands (u.earlier xs y) x :=
      .first (u.mem_earlier.mpr ⟨hx, hlt, hxe, hkey.symm⟩) hchanged hfirst
    exact ⟨y, hy, hkey, .inr ((u.mem_scan_iff h).mpr ⟨hy, hye, hstands, .inr hchanged⟩)⟩
  · obtain ⟨z, hz⟩ := u.exists_stands (u.increasing_earlier h x) hearlier
    obtain ⟨hmem, -, -, hzkey⟩ := u.mem_earlier.mp hz.mem
    exact ⟨z, hmem, hzkey, .inl ((u.mem_scan_iff h).mpr ⟨hx, hxe, hz, .inl hchanged⟩)⟩

end PublicSuffix.Uniqueness
