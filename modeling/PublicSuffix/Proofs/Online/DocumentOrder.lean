import PublicSuffix.Proofs.Online.Collection

/-!
# Reports and the order of the list

The objections of a report come in the order in which their checks are collected, and for an entity
that is: its suffixes before its wildcards. In a flat list that is the order of the list, but for
entities in which a wildcard precedes a suffix. `sorted_nodes_iff` says exactly which reports are
out of order: those with an objection to such a suffix, since all wildcards are objected to.
-/

namespace PublicSuffix.Online

variable {l : SuffixList} {e : Located Block} {c d : Check}

/-! ## The order of the checks -/

/-- `c` and `d` are collected in this order. -/
inductive InTurn (l : SuffixList) : Check → Check → Prop where
  | entities {e f : Located Block} {c d : Check} (he : e ∈ entities l) (hf : f ∈ entities l)
    (hc : c.node ∈ e.below) (hd : d.node ∈ f.below) (hstop : e.stop ≤ f.index) : InTurn l c d
  | suffixes {s t : Located Suffix} (h : s.index < t.index) : InTurn l (.records s) (.records t)
  | wildcards {v w : Located Wildcard} (h : v.index < w.index) :
    InTurn l (.wildcard v) (.wildcard w)
  | mixed {e : Located Block} {s : Located Suffix} {w : Located Wildcard} (he : e ∈ entities l)
    (hs : (Check.records s).node ∈ e.below) (hw : (Check.wildcard w).node ∈ e.below) :
    InTurn l (.records s) (.wildcard w)

theorem pairwise_checksOf (he : e ∈ entities l) : (checksOf e).Pairwise (InTurn l) := by
  rw [checksOf, List.pairwise_append]
  refine ⟨?_, ?_, fun c hc d hd => ?_⟩
  · exact List.pairwise_map.mpr ((e.increasing_below.select _).imp .suffixes)
  · exact List.pairwise_map.mpr ((e.increasing_below.select _).imp .wildcards)
  · have hce : c.node ∈ e.below := mem_checksOf.mp (List.mem_append_left _ hc)
    have hde : d.node ∈ e.below := mem_checksOf.mp (List.mem_append_right _ hd)
    obtain ⟨s, _, rfl⟩ := List.mem_map.mp hc
    obtain ⟨w, _, rfl⟩ := List.mem_map.mp hd
    exact .mixed he hce hde

theorem Flat.pairwise_inTurn (h : Flat l) :
    ((Online.entities l).flatMap checksOf).Pairwise (InTurn l) := by
  refine List.pairwise_flatMap.mpr ⟨fun e he => pairwise_checksOf he, ?_⟩
  refine List.Pairwise.imp_of_mem (fun {e f} he hf hstop => ?_) h.pairwise_entities
  intro c hc d hd
  exact .entities he hf (mem_checksOf.mp hc) (mem_checksOf.mp hd) hstop

theorem InTurn.index_lt_or (h : InTurn l c d) : c.node.index < d.node.index ∨
    ∃ e ∈ Online.entities l, ∃ s w, c = .records s ∧ d = .wildcard w ∧
      c.node ∈ e.below ∧ d.node ∈ e.below := by
  cases h with
  | @entities e f _ _ _ _ hc hd hstop =>
    have hc := (Located.index_of_mem_below hc).2
    have hd := (Located.index_of_mem_below hd).1
    exact .inl (by omega)
  | suffixes h => exact .inl h
  | wildcards h => exact .inl h
  | mixed he hs hw => exact .inr ⟨_, he, _, _, rfl, rfl, hs, hw⟩

/-- No wildcard is collected before a suffix of its entity. -/
theorem InTurn.not_of_same_entity (hflat : Flat l) (he : e ∈ Online.entities l)
    {s : Located Suffix} {w : Located Wildcard} (hs : (Check.records s).node ∈ e.below)
    (hw : (Check.wildcard w).node ∈ e.below) : ¬InTurn l (.wildcard w) (.records s) := by
  intro h
  cases h with
  | @entities f g _ _ hf hg hwf hsg hstop =>
    rw [hflat.entity_eq hf he hwf hw, hflat.entity_eq hg he hsg hs] at hstop
    exact Nat.not_le_of_lt e.index_lt_stop hstop

/-! ## The order of a report -/

section Report

variable (resolver : Resolver) (settings : Settings) (expected : Option ChangeId)
  (deadline : Option Nat)

theorem mem_of_mem_reported {x : Check × Nat}
    (hx : x ∈ reported resolver settings expected deadline l) :
    x.1 ∈ (entities l).flatMap checksOf := by
  rw [← map_fst_checks]
  exact List.mem_map_of_mem (List.mem_filter.mp hx).1

/-- Every wildcard is objected to, be the verification cancelled or not. -/
theorem exists_reported_wildcard (he : e ∈ entities l) {w : Located Wildcard}
    (hw : (Check.wildcard w).node ∈ e.below) :
    ∃ n, (Check.wildcard w, n) ∈ reported resolver settings expected deadline l := by
  have hmem : Check.wildcard w ∈ (entities l).flatMap checksOf :=
    List.mem_flatMap.mpr ⟨e, he, mem_checksOf.mpr hw⟩
  rw [← map_fst_checks, List.mem_map] at hmem
  obtain ⟨⟨_, n⟩, hc, rfl⟩ := hmem
  exact ⟨n, List.mem_filter.mpr ⟨hc, rfl⟩⟩

theorem Flat.pairwise_reported (h : Flat l) :
    (reported resolver settings expected deadline l).Pairwise fun x y => InTurn l x.1 y.1 := by
  have hchecks : ((checks l).map Prod.fst).Pairwise (InTurn l) := by
    rw [map_fst_checks]
    exact h.pairwise_inTurn
  exact (List.pairwise_map.mp hchecks).filter _

/-- In a sorted report, a suffix that is objected to comes before the wildcards of its entity. An
earlier wildcard would be reported first, and it is not collected first. -/
theorem Flat.index_lt_of_sorted (h : Flat l)
    (hsorted : (reported resolver settings expected deadline l).Pairwise
      fun x y => x.1.node.index < y.1.node.index)
    (he : e ∈ Online.entities l) {s : Located Suffix} {w : Located Wildcard}
    (hs : (Check.records s).node ∈ e.below) (hw : (Check.wildcard w).node ∈ e.below)
    (hreported : s.index ∈ (reported resolver settings expected deadline l).map
      fun c => c.1.node.index) : s.index < w.index := by
  -- the check of the suffix is the only one with its number
  obtain ⟨⟨c, m⟩, hc, hcs⟩ := List.mem_map.mp hreported
  have hsmem : Check.records s ∈ (Online.entities l).flatMap checksOf :=
    List.mem_flatMap.mpr ⟨e, he, mem_checksOf.mpr hs⟩
  obtain rfl : c = .records s :=
    eq_of_node_index_eq (mem_of_mem_reported resolver settings expected deadline hc) hsmem hcs
  obtain ⟨n, hn⟩ := exists_reported_wildcard resolver settings expected deadline he hw
  have hturn := h.pairwise_reported resolver settings expected deadline
  rcases Nat.lt_trichotomy s.index w.index with hlt | heq | hgt
  · exact hlt
  · cases Check.node_injective (e.increasing_below.eq_of_index_eq hs hw heq)
  · exact absurd (rel_of_pairwise_lt hsorted hturn hn hc hgt) (InTurn.not_of_same_entity h he hs hw)

/-- A report is sorted if the suffixes that it objects to come before the wildcards of their
entities. -/
theorem Flat.sorted_reported (h : Flat l)
    (hplaced : ∀ e ∈ Online.entities l, ∀ s, (Check.records s).node ∈ e.below →
      ∀ w, (Check.wildcard w).node ∈ e.below →
        s.index ∈ (reported resolver settings expected deadline l).map (fun c => c.1.node.index) →
          s.index < w.index) :
    (reported resolver settings expected deadline l).Pairwise
      fun x y => x.1.node.index < y.1.node.index := by
  refine List.Pairwise.imp_of_mem (fun {x y} hx _ hxy => ?_)
    (h.pairwise_reported resolver settings expected deadline)
  rcases hxy.index_lt_or with hlt | ⟨e, he, s, w, hxs, hyw, hs, hw⟩
  · exact hlt
  · have hreported := List.mem_map_of_mem (f := fun c => c.1.node.index) hx
    rw [hxs] at hs hreported ⊢
    rw [hyw] at hw ⊢
    exact hplaced e he s hs w hw hreported

/-- **When a report is in the order of a flat list**: if and only if none of its objections is to a
suffix that comes after a wildcard of its entity. In any case the report goes through the checks
as they are collected. -/
theorem sorted_nodes_iff (h : Flat l) :
    (∃ cs : List Check, cs.Sublist ((entities l).flatMap checksOf) ∧ cs.Pairwise (InTurn l) ∧
      (verify resolver settings expected deadline l).violations.flatMap Violation.nodes =
        cs.map fun c => c.node.index) ∧
    (((verify resolver settings expected deadline l).violations.flatMap
        Violation.nodes).Pairwise (· < ·) ↔
      ∀ e, IsPrivateEntity l e → ∀ s ∈ select Block.suffix? e.below,
        ∀ w ∈ select Block.wildcard? e.below,
          s.index ∈ (verify resolver settings expected deadline l).violations.flatMap
            Violation.nodes → s.index < w.index) := by
  have hturn := h.pairwise_reported resolver settings expected deadline
  rw [nodes_violations, List.pairwise_map]
  refine ⟨⟨(reported resolver settings expected deadline l).map Prod.fst, ?_,
    List.pairwise_map.mpr hturn, by rw [List.map_map]; rfl⟩, fun hsorted => ?_, fun hplaced => ?_⟩
  · rw [← map_fst_checks]
    exact List.filter_sublist.map Prod.fst
  · intro e he s hs w hw hreported
    exact h.index_lt_of_sorted resolver settings expected deadline hsorted (mem_entities.mpr he)
      (mem_select_suffix?.mp hs) (mem_select_wildcard?.mp hw) hreported
  · refine h.sorted_reported resolver settings expected deadline fun e he s hs w hw => ?_
    exact hplaced e (mem_entities.mp he) s (mem_select_suffix?.mpr hs) w (mem_select_wildcard?.mpr hw)

end Report

/-- Two entities that have their wildcards behind their suffixes. -/
def ordered : SuffixList where
  blocks := [.group (.ofSection { name := privateSection })
    [.group (.ofEntity { info := { name := "Example" }, changed := true })
        [.entry (.ofSuffix { domain := nameOfA, changed := true }),
          .entry (.ofSuffix { domain := nameOfB }), .entry (.ofWildcard { domain := nameOfA })],
      .group (.ofEntity { info := { name := "Example" }, changed := true })
        [.entry (.ofSuffix { domain := nameOfB }), .entry (.ofWildcard { domain := nameOfB })]]]

/-- All that is checked of `ordered` is reported, in its order. -/
theorem sorted_nodes_ordered : Flat ordered ∧
    (verify slow {} (some 7) none ordered).violations.flatMap Violation.nodes = [3, 4, 5, 7, 8] ∧
    ∀ e, IsPrivateEntity ordered e → ∀ s ∈ select Block.suffix? e.below,
      ∀ w ∈ select Block.wildcard? e.below, s.index ∈ [3, 4, 5, 7, 8] → s.index < w.index := by
  have hflat : Flat ordered := by decide
  have hnodes : (verify slow {} (some 7) none ordered).violations.flatMap Violation.nodes =
      [3, 4, 5, 7, 8] := by
    rw [nodes_violations]
    decide +kernel
  have hplaced := (sorted_nodes_iff slow {} (some 7) none hflat).2.mp (by rw [hnodes]; decide)
  rw [hnodes] at hplaced
  exact ⟨hflat, hnodes, hplaced⟩

/-- The wildcard of `small` is reported after a suffix that it precedes. -/
theorem nodes_small : Flat small ∧
    (verify slow {} (some 7) none small).violations.flatMap Violation.nodes = [3, 5, 4] ∧
    ¬((verify slow {} (some 7) none small).violations.flatMap Violation.nodes).Pairwise
      (· < ·) := by
  have hnodes : (verify slow {} (some 7) none small).violations.flatMap Violation.nodes =
      [3, 5, 4] := by
    rw [nodes_violations]
    decide +kernel
  rw [hnodes]
  exact ⟨by decide, rfl, by decide⟩

end PublicSuffix.Online
