import PublicSuffix.Proofs.Document.Preorder

/-!
# What lies below a node

The nodes at or below a node are those of the list whose numbers lie between its own number and the
number where its subtree stops (`SuffixList.mem_below_iff`). Hence of two nodes of a list one lies
below the other, or their subtrees have nothing in common (`SuffixList.below_or_stop_le`). Where no
node of some sort lies below another one of that sort, their subtrees follow one another
(`Unnested.pairwise_stop_le`), and what is walked below all of them in turn is still in the order of
the list (`increasing_flatMap_below`).
-/

namespace PublicSuffix

/-! ## The numbers below a node -/

/-- The number after those of the nodes at or below a node. -/
def Located.stop (b : Located Block) : Nat := b.index + b.value.size

theorem Block.size_pos (b : Block) : 0 < b.size := by
  cases b with
  | group h bs => exact Nat.succ_pos _
  | entry e => exact Nat.one_pos

theorem Located.index_lt_stop (b : Located Block) : b.index < b.stop :=
  Nat.lt_add_of_pos_right b.value.size_pos

theorem Located.increasing_below (b : Located Block) : Increasing b.below :=
  Block.increasing_located b.index b.value

theorem Located.index_of_mem_below {b x : Located Block} (h : x ∈ b.below) :
    b.index ≤ x.index ∧ x.index < b.stop :=
  Block.index_of_mem_located b.value h

mutual

theorem Block.stop_le_of_mem_located {start : Nat} {b : Located Block} :
    (r : Block) → b ∈ r.located start → b.stop ≤ start + r.size
  | .group h bs => by
    intro hb
    rw [Block.located, List.mem_cons] at hb
    rcases hb with rfl | hb
    · exact Nat.le_refl _
    · have := Block.stop_le_of_mem_locatedAll bs hb
      rw [Block.size]
      omega
  | .entry e => by
    intro hb
    rw [Block.located, List.mem_singleton] at hb
    subst hb
    exact Nat.le_refl _

theorem Block.stop_le_of_mem_locatedAll {start : Nat} {b : Located Block} :
    (bs : List Block) → b ∈ Block.locatedAll start bs → b.stop ≤ start + Block.sizeAll bs
  | [] => by simp [Block.locatedAll]
  | c :: bs => by
    intro hb
    rw [Block.locatedAll, List.mem_append] at hb
    rw [Block.sizeAll]
    rcases hb with hb | hb
    · have := Block.stop_le_of_mem_located c hb
      omega
    · have := Block.stop_le_of_mem_locatedAll bs hb
      omega

end

mutual

/-- What lies below a node of a block are the nodes of the block in a certain range. -/
theorem Block.mem_below_iff {start : Nat} {b x : Located Block} :
    (r : Block) → b ∈ r.located start →
      (x ∈ b.below ↔ x ∈ r.located start ∧ b.index ≤ x.index ∧ x.index < b.stop)
  | .group h bs => by
    intro hb
    rw [Block.located, List.mem_cons] at hb
    rcases hb with rfl | hb
    · exact ⟨fun hx => ⟨hx, Located.index_of_mem_below hx⟩, fun hx => hx.1⟩
    · -- the heading comes before all that is below one of its blocks
      have hstart := (Block.index_of_mem_locatedAll bs hb).1
      rw [Block.mem_belowAll_iff bs hb, Block.located, List.mem_cons]
      constructor
      · rintro ⟨hx, hrange⟩
        exact ⟨.inr hx, hrange⟩
      · rintro ⟨rfl | hx, hrange⟩
        · dsimp only at hrange
          omega
        · exact ⟨hx, hrange⟩
  | .entry e => by
    intro hb
    rw [Block.located, List.mem_singleton] at hb
    subst hb
    exact ⟨fun hx => ⟨hx, Located.index_of_mem_below hx⟩, fun hx => hx.1⟩

theorem Block.mem_belowAll_iff {start : Nat} {b x : Located Block} :
    (bs : List Block) → b ∈ Block.locatedAll start bs →
      (x ∈ b.below ↔
        x ∈ Block.locatedAll start bs ∧ b.index ≤ x.index ∧ x.index < b.stop)
  | [] => by simp [Block.locatedAll]
  | c :: bs => by
    intro hb
    rw [Block.locatedAll, List.mem_append] at hb
    rw [Block.locatedAll, List.mem_append]
    rcases hb with hb | hb
    · -- the later blocks come after all that is below a node of the first
      have hstop := Block.stop_le_of_mem_located c hb
      rw [Block.mem_below_iff c hb]
      constructor
      · rintro ⟨hx, hrange⟩
        exact ⟨.inl hx, hrange⟩
      · rintro ⟨hx | hx, hrange⟩
        · exact ⟨hx, hrange⟩
        · have hlater := (Block.index_of_mem_locatedAll bs hx).1
          omega
    · have hstart := (Block.index_of_mem_locatedAll bs hb).1
      rw [Block.mem_belowAll_iff bs hb]
      constructor
      · rintro ⟨hx, hrange⟩
        exact ⟨.inr hx, hrange⟩
      · rintro ⟨hx | hx, hrange⟩
        · have hearlier := (Block.index_of_mem_located c hx).2
          omega
        · exact ⟨hx, hrange⟩

end

namespace SuffixList

variable {l : SuffixList} {b c x : Located Block}

theorem mem_below_iff (hb : b ∈ l.located) :
    x ∈ b.below ↔ x ∈ l.located ∧ b.index ≤ x.index ∧ x.index < b.stop :=
  Block.mem_belowAll_iff l.blocks hb

theorem mem_of_mem_below (hb : b ∈ l.located) (hx : x ∈ b.below) : x ∈ l.located :=
  ((mem_below_iff hb).mp hx).1

theorem eq_of_index_eq (hb : b ∈ l.located) (hc : c ∈ l.located) (h : b.index = c.index) : b = c :=
  l.increasing_located.eq_of_index_eq hb hc h

/-- A node lies below an earlier one or after all that does. -/
theorem below_or_stop_le (hb : b ∈ l.located) (hc : c ∈ l.located) (h : b.index ≤ c.index) :
    c ∈ b.below ∨ b.stop ≤ c.index := by
  rcases Nat.lt_or_ge c.index b.stop with hlt | hge
  · exact .inl ((mem_below_iff hb).mpr ⟨hc, h, hlt⟩)
  · exact .inr hge

/-- The nodes below a node are among those of the list. -/
theorem countP_below (hb : b ∈ l.located) (P : Located Block → Bool) :
    b.below.countP P = l.located.countP fun x => P x && decide (x ∈ b.below) := by
  have hperm : b.below.Perm (l.located.filter (· ∈ b.below)) := by
    refine (List.perm_ext_iff_of_nodup (nodup_of_pairwise_lt b.increasing_below)
      ((nodup_of_pairwise_lt l.increasing_located).filter _)).mpr fun x => ?_
    rw [List.mem_filter, decide_eq_true_eq]
    exact ⟨fun hx => ⟨mem_of_mem_below hb hx, hx⟩, fun hx => hx.2⟩
  rw [hperm.countP_eq, List.countP_filter]

end SuffixList

/-! ## Nodes that do not lie below one another -/

/-- No node of a certain sort lies below another one. -/
def Unnested (P : Block → Bool) (l : SuffixList) : Prop :=
  ∀ b ∈ l.located, P b.value = true → ∀ c ∈ b.below, P c.value = true → c = b

instance (P : Block → Bool) (l : SuffixList) : Decidable (Unnested P l) :=
  inferInstanceAs (Decidable (∀ b ∈ l.located, P b.value = true →
    ∀ c ∈ b.below, P c.value = true → c = b))

section Unnested

variable {P : Block → Bool} {l : SuffixList} {xs : List (Located Block)}

theorem Unnested.stop_le (h : Unnested P l) {b c : Located Block} (hb : b ∈ l.located)
    (hbP : P b.value = true) (hc : c ∈ l.located) (hcP : P c.value = true)
    (hlt : b.index < c.index) : b.stop ≤ c.index := by
  rcases SuffixList.below_or_stop_le hb hc (Nat.le_of_lt hlt) with hbelow | hstop
  · rw [h b hb hbP c hbelow hcP] at hlt
    exact absurd hlt (Nat.lt_irrefl _)
  · exact hstop

/-- A node lies below one of them at most. -/
theorem Unnested.eq_of_mem_below (h : Unnested P l) {b c x : Located Block} (hb : b ∈ l.located)
    (hbP : P b.value = true) (hc : c ∈ l.located) (hcP : P c.value = true) (hxb : x ∈ b.below)
    (hxc : x ∈ c.below) : b = c := by
  have hbrange := Located.index_of_mem_below hxb
  have hcrange := Located.index_of_mem_below hxc
  rcases Nat.lt_trichotomy b.index c.index with hlt | heq | hgt
  · have := h.stop_le hb hbP hc hcP hlt
    omega
  · exact SuffixList.eq_of_index_eq hb hc heq
  · have := h.stop_le hc hcP hb hbP hgt
    omega

theorem Unnested.pairwise_stop_le (h : Unnested P l) (hxs : Increasing xs)
    (hmem : ∀ b ∈ xs, b ∈ l.located ∧ P b.value = true) :
    xs.Pairwise fun b c => b.stop ≤ c.index := by
  refine List.Pairwise.imp_of_mem (fun {b c} hb hc hlt => ?_) hxs
  obtain ⟨hb, hbP⟩ := hmem b hb
  obtain ⟨hc, hcP⟩ := hmem c hc
  exact h.stop_le hb hbP hc hcP hlt

/-- Walks below nodes that follow one another follow one another. -/
theorem increasing_flatMap_below (h : xs.Pairwise fun b c => b.stop ≤ c.index) :
    Increasing (xs.flatMap Located.below) := by
  refine List.pairwise_flatMap.mpr ⟨fun b _ => b.increasing_below, ?_⟩
  refine h.imp fun hstop x hx y hy => ?_
  have hx := (Located.index_of_mem_below hx).2
  have hy := (Located.index_of_mem_below hy).1
  omega

end Unnested

end PublicSuffix
