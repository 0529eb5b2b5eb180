import PublicSuffix.Proofs.Document.Nesting
import PublicSuffix.Proofs.Online.Provenance

/-!
# What is collected

Every check is about one node of the list (`Check.node`), and an entity is collected with a check
for each suffix and wildcard below it (`mem_checksOf`). An objection refers to the node of its check
and to no other (`nodes_of_objection?`), so the nodes that a report refers to can be read off the
collected checks (`nodes_violations`).

Lists with nested entities or nested private sections are possible. In the others, which are called
`Flat` here, no node belongs to two entities.
-/

namespace PublicSuffix

theorem Block.suffix?_eq_some_iff {b : Block} {s : Suffix} :
    b.suffix? = some s ↔ b = .entry (.ofSuffix s) := by
  constructor
  · intro h
    unfold Block.suffix? at h
    split at h
    · cases h
      rfl
    · cases h
  · rintro rfl
    rfl

theorem Block.wildcard?_eq_some_iff {b : Block} {w : Wildcard} :
    b.wildcard? = some w ↔ b = .entry (.ofWildcard w) := by
  constructor
  · intro h
    unfold Block.wildcard? at h
    split at h
    · cases h
      rfl
    · cases h
  · rintro rfl
    rfl

namespace Online

variable {l : SuffixList} {e f : Located Block} {c d : Check}

/-! ## Checks and their nodes -/

/-- The node that a check is about. -/
def Check.node : Check → Located Block
  | .records s => ⟨s.index, .entry (.ofSuffix s.value)⟩
  | .wildcard w => ⟨w.index, .entry (.ofWildcard w.value)⟩

theorem Check.node_injective : Function.Injective Check.node := by
  intro c d h
  rcases c with ⟨i, s⟩ | ⟨i, w⟩ <;> rcases d with ⟨j, t⟩ | ⟨j, v⟩ <;> cases h <;> rfl

theorem mem_select_suffix? {xs : List (Located Block)} {s : Located Suffix} :
    s ∈ select Block.suffix? xs ↔ (Check.records s).node ∈ xs := by
  simp [mem_select, Block.suffix?_eq_some_iff, Check.node]

theorem mem_select_wildcard? {xs : List (Located Block)} {w : Located Wildcard} :
    w ∈ select Block.wildcard? xs ↔ (Check.wildcard w).node ∈ xs := by
  simp [mem_select, Block.wildcard?_eq_some_iff, Check.node]

/-- An entity has a check for each suffix and wildcard below it. -/
theorem mem_checksOf : c ∈ checksOf e ↔ c.node ∈ e.below := by
  rw [checksOf, List.mem_append, List.mem_map, List.mem_map]
  cases c with
  | records s => simp [mem_select_suffix?]
  | wildcard w => simp [mem_select_wildcard?]

theorem mem_located_of_mem_entities (he : e ∈ entities l) : e ∈ l.located := by
  obtain ⟨⟨p, hp, _, hbelow⟩, _⟩ := mem_entities.mp he
  exact SuffixList.mem_of_mem_below hp hbelow

theorem node_mem_located (hc : c ∈ (entities l).flatMap checksOf) : c.node ∈ l.located := by
  obtain ⟨e, he, hce⟩ := List.mem_flatMap.mp hc
  exact SuffixList.mem_of_mem_below (mem_located_of_mem_entities he) (mem_checksOf.mp hce)

/-- A number belongs to one check only. -/
theorem eq_of_node_index_eq (hc : c ∈ (entities l).flatMap checksOf)
    (hd : d ∈ (entities l).flatMap checksOf) (h : c.node.index = d.node.index) : c = d :=
  Check.node_injective
    (SuffixList.eq_of_index_eq (node_mem_located hc) (node_mem_located hd) h)

/-! ## The nodes of a report -/

theorem nodes_of_verdict {expected : Option ChangeId} {s : Located Suffix}
    {result : Except LookupError (Option ChangeId)} {v : Violation}
    (h : verdict expected s result = some v) : v.nodes = [s.index] := by
  obtain ⟨_, rfl⟩ | ⟨_, _, rfl⟩ := eq_of_verdict h <;> rfl

theorem nodes_of_objection? {resolver : Resolver} {timeout : Nat} {expected : Option ChangeId}
    {v : Violation} (h : objection? resolver timeout expected c = some v) :
    v.nodes = [c.node.index] := by
  cases c with
  | records s => exact nodes_of_verdict h
  | wildcard w =>
    cases h
    rfl

theorem flatMap_filterMap_eq_map {α β γ : Type} {f : α → Option β} {g : β → List γ} {h : α → γ}
    (hg : ∀ a b, f a = some b → g b = [h a]) (xs : List α) :
    (xs.filterMap f).flatMap g = (xs.filter fun a => (f a).isSome).map h := by
  induction xs with
  | nil => rfl
  | cons a xs ih =>
    cases ha : f a with
    | none =>
      rw [List.filterMap_cons_none ha, ih, List.filter_cons_of_neg (by simp [ha])]
    | some b =>
      rw [List.filterMap_cons_some ha, List.flatMap_cons, hg a b ha, ih,
        List.filter_cons_of_pos (by simp [ha]), List.map_cons, List.singleton_append]

/-- The numbered checks whose objections a verification reports. -/
def reported (resolver : Resolver) (settings : Settings) (expected : Option ChangeId)
    (deadline : Option Nat) (l : SuffixList) : List (Check × Nat) :=
  (checks l).filter fun c => (objection? resolver settings.timeout expected c.1).isSome &&
    settledBefore deadline (freeHistory resolver settings l) c

theorem nodes_violations (resolver : Resolver) (settings : Settings) (expected : Option ChangeId)
    (deadline : Option Nat) (l : SuffixList) :
    (verify resolver settings expected deadline l).violations.flatMap Violation.nodes =
      (reported resolver settings expected deadline l).map fun c => c.1.node.index := by
  rw [violations_deadline, reported, ← List.filter_filter]
  exact flatMap_filterMap_eq_map (fun c v hv => nodes_of_objection? hv) _

/-! ## Lists without nesting -/

/-- A list in which no entity lies inside another one, and no private section inside another one. -/
structure Flat (l : SuffixList) : Prop where
  entities : Unnested (fun b => b.entity?.isSome) l
  sections : Unnested (Block.opensSection "PRIVATE DOMAINS") l

theorem flat_iff : Flat l ↔ Unnested (fun b => b.entity?.isSome) l ∧
    Unnested (Block.opensSection "PRIVATE DOMAINS") l :=
  ⟨fun h => ⟨h.entities, h.sections⟩, fun h => ⟨h.1, h.2⟩⟩

instance (l : SuffixList) : Decidable (Flat l) := decidable_of_iff _ flat_iff.symm

theorem isSome_entity?_of_mem_entities (he : e ∈ entities l) : e.value.entity?.isSome = true := by
  obtain ⟨_, x, hx, _⟩ := mem_entities.mp he
  rw [hx]
  rfl

/-- No node of a flat list belongs to two entities. -/
theorem Flat.entity_eq (h : Flat l) {x : Located Block} (he : e ∈ Online.entities l)
    (hf : f ∈ Online.entities l) (hxe : x ∈ e.below) (hxf : x ∈ f.below) : e = f :=
  h.entities.eq_of_mem_below (mem_located_of_mem_entities he) (isSome_entity?_of_mem_entities he)
    (mem_located_of_mem_entities hf) (isSome_entity?_of_mem_entities hf) hxe hxf

/-- The entities of a flat list are collected in their order, each once. -/
theorem Flat.pairwise_entities (h : Flat l) :
    (Online.entities l).Pairwise fun e f => e.stop ≤ f.index := by
  refine h.entities.pairwise_stop_le ?_ fun e he =>
    ⟨mem_located_of_mem_entities he, isSome_entity?_of_mem_entities he⟩
  refine List.Pairwise.filter _ (increasing_flatMap_below ?_)
  refine h.sections.pairwise_stop_le (l.increasing_located.filter _) fun b hb => ?_
  exact List.mem_filter.mp hb

end Online

end PublicSuffix
