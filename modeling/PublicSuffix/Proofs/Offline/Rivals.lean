import PublicSuffix.Offline.Uniqueness
import PublicSuffix.Proofs.Document.Preorder
import Mathlib.Data.List.Induction

/-!
# What a scan remembers

`find?_representatives` gives the representative of a key in closed form: its first block if that
one is changed, and its last unchanged block otherwise. From this it follows that a scan reports
nothing exactly if blocks of one key are unchanged whenever there are two of them
(`scan_eq_none_iff`).

Both are proved by induction over the scan from its end: the representatives before the last block
decide whether that block is a rival and whether it is remembered.
-/

namespace PublicSuffix.Uniqueness

variable {κ α : Type} [DecidableEq κ] (u : Uniqueness κ α)

/-! ## One block -/

theorem rival?_eq_some_iff {kept : List (Located α)} {x y : Located α} :
    u.rival? kept x = some y ↔ u.eligible x.value = true ∧ u.find? kept (u.key x.value) = some y ∧
      (u.changed x.value = true ∨ u.changed y.value = true) := by
  unfold rival?
  split
  · next he => simp [Option.filter_eq_some_iff, he]
  · next he => simp [he]

/-- A block is remembered under its key unless it is a rival. -/
theorem find?_keep (kept : List (Located α)) (x : Located α) (k : κ) :
    u.find? (u.keep kept x) k =
      if u.eligible x.value = true ∧ u.key x.value = k ∧ u.rival? kept x = none then some x
      else u.find? kept k := by
  unfold keep
  by_cases hk : u.eligible x.value = true ∧ u.rival? kept x = none
  · rw [if_pos hk]
    by_cases hkey : u.key x.value = k
    · simp [find?, hkey, hk]
    · simp [find?, hkey]
  · rw [if_neg hk, if_neg fun h => hk ⟨h.1, h.2.2⟩]

/-! ## The whole scan -/

theorem scanFrom_append (kept xs ys : List (Located α)) :
    u.scanFrom kept (xs ++ ys) = u.scanFrom kept xs ++ u.scanFrom (xs.foldl u.keep kept) ys := by
  induction xs generalizing kept with
  | nil => rfl
  | cons x xs ih => rw [List.cons_append, scanFrom, ih, scanFrom, List.foldl_cons, List.cons_append]

theorem scan_concat (xs : List (Located α)) (x : Located α) :
    u.scan (xs ++ [x]) = u.scan xs ++ [(x, u.rival? (u.representatives xs) x)] :=
  u.scanFrom_append [] xs [x]

theorem representatives_concat (xs : List (Located α)) (x : Located α) :
    u.representatives (xs ++ [x]) = u.keep (u.representatives xs) x := by
  rw [representatives, List.foldl_append]
  rfl

theorem map_fst_scan (xs : List (Located α)) : (u.scan xs).map (·.1) = xs := by
  induction xs using List.reverseRecOn with
  | nil => rfl
  | append_singleton xs x ih => rw [scan_concat, List.map_append, ih]; rfl

theorem mem_iff_exists_scan {xs : List (Located α)} {x : Located α} :
    x ∈ xs ↔ ∃ r, (x, r) ∈ u.scan xs := by
  rw [← u.map_fst_scan xs, List.mem_map, map_fst_scan]
  simp only [Prod.exists, exists_and_right, exists_eq_right]

theorem forall_mem_scan {xs : List (Located α)} {P : Located α → Prop} :
    (∀ p ∈ u.scan xs, P p.1) ↔ ∀ x ∈ xs, P x := by
  rw [← List.forall_mem_map, map_fst_scan]

/-! ## Representatives in closed form -/

/-- The blocks of a key that take part in a scan. -/
def peers (xs : List (Located α)) (k : κ) : List (Located α) :=
  xs.filter fun y => u.eligible y.value && decide (u.key y.value = k)

/-- The first peer if it is changed, and the last unchanged one otherwise. -/
def standing : List (Located α) → Option (Located α)
  | [] => none
  | first :: rest =>
    if u.changed first.value then some first
    else ((first :: rest).filter fun y => !u.changed y.value).getLast?

theorem mem_peers {xs : List (Located α)} {k : κ} {y : Located α} :
    y ∈ u.peers xs k ↔ y ∈ xs ∧ u.eligible y.value = true ∧ u.key y.value = k := by
  simp [peers]

theorem peers_concat (xs : List (Located α)) (x : Located α) (k : κ) :
    u.peers (xs ++ [x]) k =
      if u.eligible x.value = true ∧ u.key x.value = k then u.peers xs k ++ [x]
      else u.peers xs k := by
  rw [peers, List.filter_append, List.filter_cons, List.filter_nil]
  by_cases hx : u.eligible x.value = true ∧ u.key x.value = k
  · rw [if_pos hx, if_pos (by simpa using hx)]
    rfl
  · rw [if_neg hx, if_neg (by simpa using hx), List.append_nil]
    rfl

omit [DecidableEq κ] in
theorem exists_standing {ys : List (Located α)} (h : ys ≠ []) : ∃ y, u.standing ys = some y := by
  cases ys with
  | nil => exact absurd rfl h
  | cons first rest =>
    rw [standing]
    split
    · exact ⟨first, rfl⟩
    · next hfirst =>
      rw [← Option.isSome_iff_exists, List.getLast?_isSome]
      simp [hfirst]

omit [DecidableEq κ] in
theorem mem_of_standing {ys : List (Located α)} {y : Located α} (h : u.standing ys = some y) :
    y ∈ ys := by
  cases ys with
  | nil => simp [standing] at h
  | cons first rest =>
    rw [standing] at h
    split at h
    · cases h
      exact List.mem_cons_self
    · exact (List.mem_filter.mp (List.mem_of_getLast? h)).1

omit [DecidableEq κ] in
/-- While the first peer is unchanged, an unchanged block takes over. -/
theorem standing_concat (ys : List (Located α)) (x : Located α) :
    u.standing (ys ++ [x]) =
      match u.standing ys with
      | none => some x
      | some y => if u.changed x.value || u.changed y.value then some y else some x := by
  cases ys with
  | nil => by_cases hx : u.changed x.value <;> simp [standing, hx]
  | cons f rest =>
    by_cases hf : u.changed f.value
    · simp [standing, hf]
    · obtain ⟨y, hy⟩ := u.exists_standing (List.cons_ne_nil f rest)
      rw [List.cons_append, standing, if_neg hf, hy, ← List.cons_append, List.filter_append,
        List.getLast?_append]
      rw [standing, if_neg hf] at hy
      -- so `y` is the last unchanged peer before `x`
      have hyc : u.changed y.value = false := by
        simpa using (List.mem_filter.mp (List.mem_of_getLast? hy)).2
      by_cases hx : u.changed x.value <;> simp [hy, hx, hyc]

/-- **The representative of a key** is its first block if that one is changed, and its last
unchanged block otherwise. -/
theorem find?_representatives (xs : List (Located α)) (k : κ) :
    u.find? (u.representatives xs) k = u.standing (u.peers xs k) := by
  induction xs using List.reverseRecOn with
  | nil => rfl
  | append_singleton xs x ih =>
    rw [representatives_concat, find?_keep, peers_concat]
    -- only a block of this key can take the place of its representative
    by_cases hx : u.eligible x.value = true ∧ u.key x.value = k
    · rw [if_pos hx, standing_concat]
      obtain ⟨he, rfl⟩ := hx
      have hrival : u.rival? (u.representatives xs) x =
          (u.standing (u.peers xs (u.key x.value))).filter
            fun y => u.changed x.value || u.changed y.value := by
        rw [rival?, if_pos he, ih]
      rw [hrival, ih]
      cases u.standing (u.peers xs (u.key x.value)) with
      | none => simp [he]
      | some y =>
        dsimp only
        rw [Option.filter_some]
        cases hxy : u.changed x.value || u.changed y.value with
        | true => simp
        | false => simp [he]
    · have hkeep : ¬(u.eligible x.value = true ∧ u.key x.value = k ∧
          u.rival? (u.representatives xs) x = none) := fun h => hx ⟨h.1, h.2.1⟩
      rw [if_neg hkeep, if_neg hx, ih]

theorem mem_of_find?_representatives {xs : List (Located α)} {k : κ} {y : Located α}
    (h : u.find? (u.representatives xs) k = some y) :
    y ∈ xs ∧ u.eligible y.value = true ∧ u.key y.value = k := by
  rw [find?_representatives] at h
  exact u.mem_peers.mp (u.mem_of_standing h)

/-- Every key that occurs has a representative. -/
theorem exists_find?_representatives {xs : List (Located α)} {x : Located α} (hx : x ∈ xs)
    (he : u.eligible x.value = true) :
    ∃ y, u.find? (u.representatives xs) (u.key x.value) = some y := by
  rw [find?_representatives]
  exact u.exists_standing (List.ne_nil_of_mem (u.mem_peers.mpr ⟨hx, he, rfl⟩))

/-! ## Scans that report nothing -/

/-- Two blocks do not rival: they have different keys, or both are unchanged. -/
def Compatible (x y : Located α) : Prop :=
  u.key x.value = u.key y.value → u.changed x.value = false ∧ u.changed y.value = false

omit [DecidableEq κ] in
variable {u} in
theorem Compatible.symm {x y : Located α} (h : u.Compatible x y) : u.Compatible y x :=
  fun hkey => (h hkey.symm).symm

/-- Where no two blocks rival, the representative is changed if and only if any block of its key
is. -/
theorem changed_find?_representatives {xs : List (Located α)} {x y : Located α}
    (hxs : xs.Pairwise u.Compatible) (hx : x ∈ xs)
    (hy : u.find? (u.representatives xs) (u.key x.value) = some y) :
    u.changed y.value = u.changed x.value := by
  obtain ⟨hmem, -, hkey⟩ := u.mem_of_find?_representatives hy
  by_cases hyx : y = x
  · rw [hyx]
  · have : Std.Symm u.Compatible := ⟨fun _ _ h => h.symm⟩
    obtain ⟨hyc, hxc⟩ := hxs.forall hmem hx hyx hkey
    rw [hyc, hxc]

theorem rival?_eq_none_iff {xs : List (Located α)} {x : Located α}
    (he : ∀ y ∈ xs, u.eligible y.value = true) (hx : u.eligible x.value = true)
    (hxs : xs.Pairwise u.Compatible) :
    u.rival? (u.representatives xs) x = none ↔ ∀ y ∈ xs, u.Compatible y x := by
  constructor
  · intro hnone z hz hkey
    obtain ⟨y, hy⟩ := u.exists_find?_representatives hz (he z hz)
    rw [← u.changed_find?_representatives hxs hz hy]
    rw [hkey] at hy
    have hunchanged : ¬(u.changed x.value = true ∨ u.changed y.value = true) := fun hchanged => by
      have hrival := u.rival?_eq_some_iff.mpr ⟨hx, hy, hchanged⟩
      rw [hnone] at hrival
      cases hrival
    rw [not_or, Bool.not_eq_true, Bool.not_eq_true] at hunchanged
    exact hunchanged.symm
  · intro hall
    by_contra hne
    obtain ⟨y, hy⟩ := Option.ne_none_iff_exists'.mp hne
    obtain ⟨-, hfind, hchanged⟩ := u.rival?_eq_some_iff.mp hy
    obtain ⟨hmem, -, hkey⟩ := u.mem_of_find?_representatives hfind
    obtain ⟨hyc, hxc⟩ := hall y hmem hkey
    rcases hchanged with hchanged | hchanged
    · rw [hxc] at hchanged
      cases hchanged
    · rw [hyc] at hchanged
      cases hchanged

/-- **A scan reports nothing** exactly if no two of its blocks rival. -/
theorem scan_eq_none_iff {xs : List (Located α)} (he : ∀ x ∈ xs, u.eligible x.value = true) :
    (∀ p ∈ u.scan xs, p.2 = none) ↔ xs.Pairwise u.Compatible := by
  induction xs using List.reverseRecOn with
  | nil => simp [scan, scanFrom]
  | append_singleton xs x ih =>
    have hxs : ∀ y ∈ xs, u.eligible y.value = true := fun y hy => he y (List.mem_append_left _ hy)
    have hx : u.eligible x.value = true := he x (List.mem_append_right _ List.mem_cons_self)
    rw [scan_concat, List.forall_mem_append, ih hxs, List.forall_mem_singleton,
      List.pairwise_append]
    constructor
    · rintro ⟨hpair, hnone⟩
      refine ⟨hpair, List.pairwise_singleton _ _, fun y hy z hz => ?_⟩
      rw [List.mem_singleton.mp hz]
      exact (u.rival?_eq_none_iff hxs hx hpair).mp hnone y hy
    · rintro ⟨hpair, -, hall⟩
      exact ⟨hpair, (u.rival?_eq_none_iff hxs hx hpair).mpr
        fun y hy => hall y hy x List.mem_cons_self⟩

end PublicSuffix.Uniqueness
