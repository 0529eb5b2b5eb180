import PublicSuffix.Proofs.Online.Collection
import PublicSuffix.Proofs.Online.Queries
import Mathlib.Data.List.ProdSigma

/-!
# How often a node is checked

The checks are collected by three walks inside one another: to the private sections, to the changed
entities below each of them and to what is below each of these. A node is met once for each way that
leads to it (`ways`), and is checked as often (`count_checks`). `checks_of_node` says what that
makes of a verification: so many lookups, and so many objections. In a flat list there is one way at
most.
-/

namespace PublicSuffix.Online

variable {l : SuffixList} {e : Located Block} {c : Check}

/-! ## The ways to a node -/

/-- The ways to a node, each by a private section and by a changed entity at or below it. -/
def ways (l : SuffixList) (x : Located Block) : List (Located Block × Located Block) :=
  ((l.located.filter fun p => p.value.opensSection privateSection) ×ˢ
    (l.located.filter fun e => isChangedEntity e.value)).filter
      fun w => w.2 ∈ w.1.below ∧ x ∈ w.2.below

theorem nodup_ways (l : SuffixList) (x : Located Block) : (ways l x).Nodup := by
  have hlocated : l.located.Nodup := nodup_of_pairwise_lt l.increasing_located
  exact ((hlocated.filter _).product (hlocated.filter _)).filter _

theorem nodup_checksOf (e : Located Block) : (checksOf e).Nodup := by
  have hsuffixes := nodup_of_pairwise_lt (e.increasing_below.select Block.suffix?)
  have hwildcards := nodup_of_pairwise_lt (e.increasing_below.select Block.wildcard?)
  refine List.nodup_append.mpr ⟨hsuffixes.map fun _ _ h => Check.records.inj h,
    hwildcards.map fun _ _ h => Check.wildcard.inj h, fun c hc d hd => ?_⟩
  obtain ⟨s, _, rfl⟩ := List.mem_map.mp hc
  obtain ⟨w, _, rfl⟩ := List.mem_map.mp hd
  exact Check.noConfusion

theorem count_checksOf (c : Check) (e : Located Block) :
    (checksOf e).count c = if c.node ∈ e.below then 1 else 0 := by
  rw [(nodup_checksOf e).count]
  simp only [mem_checksOf]

/-- A check is made once for each entity that its node belongs to. -/
theorem count_flatMap_checksOf (c : Check) (es : List (Located Block)) :
    (es.flatMap checksOf).count c = es.countP fun e => decide (c.node ∈ e.below) := by
  induction es with
  | nil => rfl
  | cons e es ih =>
    rw [List.flatMap_cons, List.count_append, ih, count_checksOf, List.countP_cons, Nat.add_comm]
    simp only [decide_eq_true_eq]

/-- **A node is checked once for each way to it.** -/
theorem count_checks (l : SuffixList) (c : Check) :
    ((entities l).flatMap checksOf).count c = (ways l c.node).length := by
  rw [count_flatMap_checksOf, entities, List.countP_filter, List.countP_flatMap, ways,
    ← List.countP_eq_length_filter, SProd.sprod, List.instSProd]
  unfold List.product
  rw [List.countP_flatMap]
  refine congrArg List.sum (List.map_congr_left fun p hp => ?_)
  rw [Function.comp_apply, Function.comp_apply,
    SuffixList.countP_below (List.mem_filter.mp hp).1, List.countP_map, List.countP_filter]
  refine List.countP_congr fun e _ => ?_
  simp only [Function.comp_apply, Bool.and_eq_true, decide_eq_true_eq]
  tauto

/-! ## The report -/

section Report

variable (resolver : Resolver) (timeout : Nat) (expected : Option ChangeId)

theorem count_collected (l : SuffixList) (s : Located Suffix) :
    (collected l).count s = (ways l (Check.records s).node).length := by
  rw [← count_checks, collected_eq, List.count_filterMap]
  refine List.countP_congr fun c _ => ?_
  cases c <;> simp [Check.suffix?]

theorem objection?_eq_unverifiable_iff {w : Located Wildcard} :
    objection? resolver timeout expected c = some (.unverifiableWildcard w) ↔ c = .wildcard w := by
  cases c with
  | wildcard v => simp [objection?]
  | records s =>
    simp only [objection?, reduceCtorEq, iff_false]
    unfold verdict
    split
    · simp
    · split
      · simp
      · split <;> simp

theorem count_unverifiable (l : SuffixList) (w : Located Wildcard) :
    (sequential resolver timeout expected l).count (.unverifiableWildcard w) =
      (ways l (Check.wildcard w).node).length := by
  rw [← count_checks, sequential, List.count_filterMap]
  refine List.countP_congr fun c _ => ?_
  rw [beq_iff_eq, beq_iff_eq, objection?_eq_unverifiable_iff]

/-- Of the collected checks, only that of a node leads to an objection to it. -/
theorem objects_iff {d : Check} (hc : c.node ∈ l.located)
    (hd : d ∈ (entities l).flatMap checksOf) :
    (∃ v, objection? resolver timeout expected d = some v ∧ v.nodes = [c.node.index]) ↔
      d = c ∧ (objection? resolver timeout expected c).isSome = true := by
  constructor
  · rintro ⟨v, hv, hnodes⟩
    rw [nodes_of_objection? hv] at hnodes
    obtain rfl : d = c := Check.node_injective
      (SuffixList.eq_of_index_eq (node_mem_located hd) hc (List.singleton_injective hnodes))
    exact ⟨rfl, Option.isSome_of_mem hv⟩
  · rintro ⟨rfl, hsome⟩
    obtain ⟨v, hv⟩ := Option.isSome_iff_exists.mp hsome
    exact ⟨v, hv, nodes_of_objection? hv⟩

/-- A node is objected to once for each way to it, if at all. -/
theorem countP_objections (hc : c.node ∈ l.located) :
    (sequential resolver timeout expected l).countP (fun v => v.nodes = [c.node.index]) =
      if (objection? resolver timeout expected c).isSome then (ways l c.node).length else 0 := by
  have hcount : (sequential resolver timeout expected l).countP
      (fun v => v.nodes = [c.node.index]) = ((entities l).flatMap checksOf).countP
        fun d => d == c && (objection? resolver timeout expected c).isSome := by
    rw [sequential, List.countP_filterMap]
    refine List.countP_congr fun d hd => ?_
    rw [Bool.and_eq_true, beq_iff_eq, ← objects_iff resolver timeout expected hc hd]
    cases objection? resolver timeout expected d <;> simp
  rw [hcount, ← count_checks]
  cases (objection? resolver timeout expected c).isSome <;> simp [List.count]

end Report

/-! ## Lists without nesting -/

theorem of_mem_ways {x : Located Block} {w : Located Block × Located Block} (h : w ∈ ways l x) :
    (w.1 ∈ l.located ∧ w.1.value.opensSection privateSection = true) ∧ w.2 ∈ entities l ∧
      w.2 ∈ w.1.below ∧ x ∈ w.2.below := by
  obtain ⟨hw, hbelow⟩ := List.mem_filter.mp h
  obtain ⟨hsection, hentity⟩ := List.mem_product.mp hw
  obtain ⟨hwbelow, hx⟩ := of_decide_eq_true hbelow
  refine ⟨List.mem_filter.mp hsection, ?_, hwbelow, hx⟩
  exact List.mem_filter.mpr
    ⟨List.mem_flatMap.mpr ⟨w.1, hsection, hwbelow⟩, (List.mem_filter.mp hentity).2⟩

theorem Flat.way_eq (h : Flat l) {x : Located Block} {v w : Located Block × Located Block}
    (hv : v ∈ ways l x) (hw : w ∈ ways l x) : v = w := by
  obtain ⟨⟨hvl, hvP⟩, hve, hvbelow, hvx⟩ := of_mem_ways hv
  obtain ⟨⟨hwl, hwP⟩, hwe, hwbelow, hwx⟩ := of_mem_ways hw
  have hentity : v.2 = w.2 := h.entity_eq hve hwe hvx hwx
  rw [← hentity] at hwbelow
  exact Prod.ext (h.sections.eq_of_mem_below hvl hvP hwl hwP hvbelow hwbelow) hentity

/-- There is one way at most to a node of a flat list. -/
theorem Flat.length_ways_le (h : Flat l) (x : Located Block) : (ways l x).length ≤ 1 := by
  have hnodup := nodup_ways l x
  rcases hways : ways l x with _ | ⟨v, _ | ⟨w, ws⟩⟩
  · exact Nat.zero_le _
  · exact Nat.le_refl _
  · have hv : v ∈ ways l x := by simp [hways]
    have hw : w ∈ ways l x := by simp [hways]
    rw [hways, h.way_eq hv hw] at hnodup
    exact absurd List.mem_cons_self (List.nodup_cons.mp hnodup).1

/-! ## Verifications -/

/-- **How often a node is checked.** A verification that is not cancelled looks up a suffix once for
each way to it and objects to it, if at all, as often; it objects to a wildcard once for each way to
it. In a flat list that is once at most. -/
theorem checks_of_node (resolver : Resolver) (settings : Settings) (expected : Option ChangeId)
    (deadline : Option Nat) (l : SuffixList)
    (h : (verify resolver settings expected deadline l).cancelled = false) :
    (∀ s ∈ l.suffixes,
      ((Schedule.run (plan settings deadline) (tasks resolver settings.timeout l)).begun.map
        (·.suffix)).count s = (ways l (Check.records s).node).length ∧
      (verify resolver settings expected deadline l).violations.countP
          (fun v => v.nodes = [s.index]) =
        if (verdict expected s (lookupChange resolver settings.timeout s.value.domain)).isSome
        then (ways l (Check.records s).node).length else 0) ∧
    (∀ w ∈ l.wildcards,
      (verify resolver settings expected deadline l).violations.count (.unverifiableWildcard w) =
        (ways l (Check.wildcard w).node).length) ∧
    (Flat l → ∀ x, (ways l x).length ≤ 1) := by
  rw [begun_run h, violations_eq_sequential h]
  refine ⟨fun s hs => ⟨count_collected l s, ?_⟩, fun w _ => ?_, Flat.length_ways_le⟩
  · exact countP_objections resolver settings.timeout expected (mem_select_suffix?.mp hs)
  · exact count_unverifiable resolver settings.timeout expected l w

/-- In `small` there is one way to the first suffix and one to the wildcard. -/
theorem checks_small :
    (verify slow {} (some 7) none small).cancelled = false ∧ Flat small ∧
    (∀ x, (ways small x).length ≤ 1) ∧
    ∃ s ∈ small.suffixes, ∃ w ∈ small.wildcards,
      ((Schedule.run (plan {} none) (tasks slow (Settings.timeout {}) small)).begun.map
        (·.suffix)).count s = 1 ∧
      (verify slow {} (some 7) none small).violations.countP (fun v => v.nodes = [s.index]) = 1 ∧
      (verify slow {} (some 7) none small).violations.count (.unverifiableWildcard w) = 1 := by
  have hfree := cancelled_of_no_deadline slow {} (some 7) small
  have hflat : Flat small := by decide
  obtain ⟨hsuffixes, hwildcards, hways⟩ := checks_of_node slow {} (some 7) none small hfree
  have hs : ⟨3, { domain := nameOfA, changed := true }⟩ ∈ small.suffixes := by decide
  have hw : ⟨4, { domain := nameOfA }⟩ ∈ small.wildcards := by decide
  obtain ⟨hlookups, hobjections⟩ := hsuffixes _ hs
  refine ⟨hfree, hflat, hways hflat, _, hs, _, hw, ?_, ?_, ?_⟩
  · rw [hlookups]
    decide
  · rw [hobjections]
    decide +kernel
  · rw [hwildcards _ hw]
    decide

/-- An entity with another one inside, both of them changed. -/
def nested : SuffixList where
  blocks := [.group (.ofSection { name := privateSection })
    [.group (.ofEntity { info := { name := "Outer" }, changed := true })
      [.group (.ofEntity { info := { name := "Inner" }, changed := true })
        [.entry (.ofSuffix { domain := nameOfA, changed := true }),
          .entry (.ofWildcard { domain := nameOfB })]]]]

/-- What is inside of `nested` is checked for both entities. -/
theorem checks_nested :
    (verify slow {} (some 7) none nested).cancelled = false ∧
    ∃ s ∈ nested.suffixes, ∃ w ∈ nested.wildcards,
      ((Schedule.run (plan {} none) (tasks slow (Settings.timeout {}) nested)).begun.map
        (·.suffix)).count s = 2 ∧
      (verify slow {} (some 7) none nested).violations.countP (fun v => v.nodes = [s.index]) = 2 ∧
      (verify slow {} (some 7) none nested).violations.count (.unverifiableWildcard w) = 2 := by
  have hfree := cancelled_of_no_deadline slow {} (some 7) nested
  rw [violations_eq_sequential hfree]
  refine ⟨hfree, ⟨4, { domain := nameOfA, changed := true }⟩, by decide,
    ⟨5, { domain := nameOfB }⟩, by decide, ?_, ?_, ?_⟩
  · decide +kernel
  · decide +kernel
  · decide +kernel

end PublicSuffix.Online
