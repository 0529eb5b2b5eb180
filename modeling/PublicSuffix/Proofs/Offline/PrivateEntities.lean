import PublicSuffix.Proofs.Document.Nesting
import PublicSuffix.Proofs.Offline.Reports
import PublicSuffix.Proofs.Online.Provenance

/-!
# The contacts of private entities

What is verified through the network are the changed entities of all private sections. Contacts are
asked for in the first private section only, and there of the same entities
(`unnamedEntity_mem_validate_iff`, `missingContact_mem_validate_iff`). So a list without objections
has contacts for every entity that is verified, but for entities of a later private section
(`contacts_of_validate_eq_nil`); and in such a list no private section is changed, since a change to
any of several sections of one name is objected to.
-/

namespace PublicSuffix.Offline

open Online (IsPrivateEntity)

variable {policy : ContactPolicy} {l : SuffixList} {e p q : Located Block} {x : Entity}

/-- An entity that names itself and someone to write to, or needs not. -/
def HasContact (policy : ContactPolicy) (x : Entity) : Prop :=
  x.info.name ≠ "" ∧ (x.info.maintainers ≠ [] ∨ policy x.info.name = true)

/-- An entity outside of the first private section, where no private section is changed. -/
structure Overlooked (l : SuffixList) (e : Located Block) : Prop where
  outside : ∀ p, IsPrivateSection l p → e ∉ p.below
  unchanged : ∀ p ∈ l.located, p.value.opensSection privateSection = true →
    p.value.changed = false

/-! ## The first private section -/

theorem IsPrivateSection.eq (hp : IsPrivateSection l p) (hq : IsPrivateSection l q) : p = q :=
  SuffixList.eq_of_index_eq hp.1 hq.1
    (Nat.le_antisymm (hp.2.2 q hq.1 hq.2.1) (hq.2.2 p hp.1 hp.2.1))

theorem exists_isPrivateSection (hq : q ∈ l.located)
    (hopens : q.value.opensSection privateSection = true) : ∃ p, IsPrivateSection l p := by
  cases hsection : l.section? privateSection with
  | none => exact absurd hopens (List.find?_eq_none.mp hsection q hq)
  | some p => exact ⟨p, section?_eq_some_iff.mp hsection⟩

/-- Contacts are asked for of the verified entities that the first private section has. -/
theorem mem_changedEntities_iff (hp : IsPrivateSection l p) (he : e ∈ l.located)
    (hx : e.value.entity? = some x) :
    ⟨e.index, x⟩ ∈ changedEntities p ↔ IsPrivateEntity l e ∧ e ∈ p.below := by
  have hbelow : ⟨e.index, x⟩ ∈ select Block.entity? p.below ↔ e ∈ p.below := by
    rw [mem_select]
    constructor
    · rintro ⟨b, hb, -⟩
      have hbe := SuffixList.eq_of_index_eq (SuffixList.mem_of_mem_below hp.1 hb) he rfl
      exact hbe ▸ hb
    · intro hbelow
      exact ⟨e.value, hbelow, hx⟩
  rw [changedEntities, List.mem_filter, hbelow]
  constructor
  · rintro ⟨hmem, hchanged⟩
    exact ⟨⟨⟨p, hp.1, Block.opensSection_iff.mp hp.2.1, hmem⟩, x, hx, hchanged⟩, hmem⟩
  · rintro ⟨⟨-, y, hy, hchanged⟩, hmem⟩
    rw [hx, Option.some.injEq] at hy
    exact ⟨hmem, hy ▸ hchanged⟩

/-- A verified entity of the first private section. -/
def IsAsked (l : SuffixList) (e : Located Block) : Prop :=
  IsPrivateEntity l e ∧ ∃ p, IsPrivateSection l p ∧ e ∈ p.below

theorem isAsked_iff (he : e ∈ l.located) (hx : e.value.entity? = some x) :
    IsAsked l e ↔ ∃ p, IsPrivateSection l p ∧ ⟨e.index, x⟩ ∈ changedEntities p := by
  constructor
  · rintro ⟨hprivate, p, hp, hmem⟩
    exact ⟨p, hp, (mem_changedEntities_iff hp he hx).mpr ⟨hprivate, hmem⟩⟩
  · rintro ⟨p, hp, hmem⟩
    obtain ⟨hprivate, hmem⟩ := (mem_changedEntities_iff hp he hx).mp hmem
    exact ⟨hprivate, p, hp, hmem⟩

/-- An entity is reported for its name if and only if it is asked and has none. -/
theorem unnamedEntity_mem_validate_iff (he : e ∈ l.located) (hx : e.value.entity? = some x) :
    .unnamedEntity ⟨e.index, x⟩ ∈ validate policy l ↔ IsAsked l e ∧ x.info.name = "" := by
  rw [isAsked_iff he hx]
  simp only [mem_validate, mem_contactViolations, mem_structureViolations, mem_ruleViolations,
    changedEntities, List.mem_filter, reduceCtorEq, and_false, exists_false, or_false,
    Violation.unnamedEntity.injEq]
  constructor
  · rintro ⟨p, hp, _, hmem, hchanged, hname, rfl⟩
    exact ⟨⟨p, hp, hmem, hchanged⟩, hname⟩
  · rintro ⟨⟨p, hp, hmem, hchanged⟩, hname⟩
    exact ⟨p, hp, _, hmem, hchanged, hname, rfl⟩

/-- An entity is reported for its contacts if and only if it is asked, has none and needs them. -/
theorem missingContact_mem_validate_iff (he : e ∈ l.located) (hx : e.value.entity? = some x) :
    .missingContact ⟨e.index, x⟩ ∈ validate policy l ↔
      IsAsked l e ∧ x.info.maintainers = [] ∧ policy x.info.name = false := by
  rw [isAsked_iff he hx]
  simp only [mem_validate, mem_contactViolations, mem_structureViolations, mem_ruleViolations,
    changedEntities, List.mem_filter, reduceCtorEq, and_false, exists_false, or_false, false_or,
    Violation.missingContact.injEq]
  constructor
  · rintro ⟨p, hp, _, hmem, hchanged, hmaintainers, hpolicy, rfl⟩
    exact ⟨⟨p, hp, hmem, hchanged⟩, hmaintainers, hpolicy⟩
  · rintro ⟨⟨p, hp, hmem, hchanged⟩, hmaintainers, hpolicy⟩
    exact ⟨p, hp, _, hmem, hchanged, hmaintainers, hpolicy, rfl⟩

/-! ## Several private sections -/

theorem exists_section_of_opensSection {name : String} (hp : p ∈ l.located)
    (hopens : p.value.opensSection name = true) :
    ∃ s, ⟨p.index, s⟩ ∈ l.sections ∧ s.name = name ∧ s.changed = p.value.changed := by
  obtain ⟨s, hs, hname⟩ := Block.opensSection_iff.mp hopens
  exact ⟨s, mem_select.mpr ⟨p.value, hp, hs⟩, hname, (Block.changed_of_section? hs).symm⟩

/-- Where no changed section repeats another one, sections of one name are all unchanged. -/
theorem unchanged_of_distinct (h : Distinct Section.name Section.changed l.sections)
    {name : String} (hp : p ∈ l.located) (hq : q ∈ l.located) (hne : p.index ≠ q.index)
    (hpopens : p.value.opensSection name = true) (hqopens : q.value.opensSection name = true) :
    p.value.changed = false ∧ q.value.changed = false := by
  obtain ⟨s, hs, hsname, hschanged⟩ := exists_section_of_opensSection hp hpopens
  obtain ⟨t, ht, htname, htchanged⟩ := exists_section_of_opensSection hq hqopens
  have hunchanged : ¬(s.changed = true ∨ t.changed = true) := fun hchanged =>
    h _ hs _ ht hne hchanged (hsname.trans htname.symm)
  rw [hschanged, htchanged] at hunchanged
  simpa using hunchanged

/-- An entity of a list without objections has contacts, or it is overlooked. -/
theorem hasContact_or_overlooked (h : validate policy l = []) (he : IsPrivateEntity l e)
    (hx : e.value.entity? = some x) : HasContact policy x ∨ Overlooked l e := by
  rw [validate, List.append_eq_nil_iff, List.append_eq_nil_iff, contactViolations_eq_nil_iff,
    structureViolations_eq_nil_iff] at h
  obtain ⟨⟨hcontacts, -, -, hsections⟩, -⟩ := h
  obtain ⟨q, hq, hqsection, hbelow⟩ := he.1
  have hqopens : q.value.opensSection privateSection = true := Block.opensSection_iff.mpr hqsection
  obtain ⟨p, hp⟩ := exists_isPrivateSection hq hqopens
  by_cases hmem : e ∈ p.below
  · -- the first private section has it
    have hchanged := (mem_changedEntities_iff hp (SuffixList.mem_of_mem_below hq hbelow) hx).mpr
      ⟨he, hmem⟩
    obtain ⟨hselect, hchanged⟩ := List.mem_filter.mp hchanged
    exact .inl (hcontacts p hp _ hselect hchanged)
  · -- then there is another one, and neither it nor the first is changed
    have hne : p.index ≠ q.index := fun heq =>
      hmem (SuffixList.eq_of_index_eq hp.1 hq heq ▸ hbelow)
    refine .inr ⟨fun r hr => (hr.eq hp) ▸ hmem, fun r hr hropens => ?_⟩
    by_cases hrp : r.index = p.index
    · rw [SuffixList.eq_of_index_eq hr hp.1 hrp]
      exact (unchanged_of_distinct hsections hp.1 hq hne hp.2.1 hqopens).1
    · exact (unchanged_of_distinct hsections hr hp.1 hrp hropens hp.2.1).1

/-- **A list without objections has contacts** for the entities that are verified through the
network, unless they are overlooked. In any list, those of the first private section are the ones
that are reported. -/
theorem contacts_of_validate_eq_nil (policy : ContactPolicy) (l : SuffixList) :
    (validate policy l = [] → ∀ e x, IsPrivateEntity l e → e.value.entity? = some x →
      HasContact policy x ∨ Overlooked l e) ∧
    ∀ e ∈ l.located, ∀ x, e.value.entity? = some x →
      (.unnamedEntity ⟨e.index, x⟩ ∈ validate policy l ↔ IsAsked l e ∧ x.info.name = "") ∧
      (.missingContact ⟨e.index, x⟩ ∈ validate policy l ↔
        IsAsked l e ∧ x.info.maintainers = [] ∧ policy x.info.name = false) :=
  ⟨fun h _ _ => hasContact_or_overlooked h, fun _ he _ hx =>
    ⟨unnamedEntity_mem_validate_iff he hx, missingContact_mem_validate_iff he hx⟩⟩

/-- A list with a private section for each of the given entities. -/
def privateSections (entities : List Entity) : SuffixList where
  blocks := .group (.ofSection { name := icannSection }) [] :: entities.map fun x =>
    .group (.ofSection { name := privateSection }) [.group (.ofEntity x) []]

def named : Entity :=
  { info := { name := "Example", maintainers := [{ email := "dns@example.com" }] },
    changed := true }

def unnamed : Entity := { info := { name := "" }, changed := true }

/-- Where there is one private section, it is the first. -/
theorem isPrivateSection_single (x : Entity) : IsPrivateSection (privateSections [x])
    ⟨2, .group (.ofSection { name := privateSection }) [.group (.ofEntity x) []]⟩ := by
  rw [← section?_eq_some_iff]
  rfl

/-- One entity in one section is not overlooked: it has contacts, or it is reported. -/
theorem hasContact_named :
    (validate (fun _ => false) (privateSections [named]) = [] ∧
      IsPrivateEntity (privateSections [named]) ⟨3, .group (.ofEntity named) []⟩ ∧
      HasContact (fun _ => false) named) ∧
    IsAsked (privateSections [unnamed]) ⟨3, .group (.ofEntity unnamed) []⟩ ∧
    .unnamedEntity ⟨3, unnamed⟩ ∈ validate (fun _ => false) (privateSections [unnamed]) ∧
    .missingContact ⟨3, unnamed⟩ ∈ validate (fun _ => false) (privateSections [unnamed]) := by
  have hclean : validate (fun _ => false) (privateSections [named]) = [] := by decide +kernel
  have he : IsPrivateEntity (privateSections [named]) ⟨3, .group (.ofEntity named) []⟩ :=
    Online.mem_entities.mp (by decide)
  have hasked : IsAsked (privateSections [unnamed]) ⟨3, .group (.ofEntity unnamed) []⟩ :=
    ⟨Online.mem_entities.mp (by decide), _, isPrivateSection_single unnamed, by decide⟩
  obtain ⟨hname, hcontact⟩ := (contacts_of_validate_eq_nil (fun _ => false)
    (privateSections [unnamed])).2 ⟨3, .group (.ofEntity unnamed) []⟩ (by decide) unnamed rfl
  refine ⟨⟨hclean, he, ?_⟩, hasked, hname.mpr ⟨hasked, rfl⟩, hcontact.mpr ⟨hasked, rfl, rfl⟩⟩
  rcases (contacts_of_validate_eq_nil _ _).1 hclean _ named he rfl with hcontact | hoverlooked
  · exact hcontact
  · exact absurd (by decide) (hoverlooked.outside _ (isPrivateSection_single named))

/-- Of two sections, the second one may have an entity without a name. -/
theorem overlooked_unnamed :
    validate (fun _ => false) (privateSections [named, unnamed]) = [] ∧
    ∃ e x, IsPrivateEntity (privateSections [named, unnamed]) e ∧ e.value.entity? = some x ∧
      x.changed = true ∧ x.info.name = "" ∧ x.info.maintainers = [] := by
  exact ⟨by decide +kernel, ⟨5, .group (.ofEntity unnamed) []⟩, unnamed,
    Online.mem_entities.mp (by decide), rfl, rfl, rfl, rfl⟩

end PublicSuffix.Offline
