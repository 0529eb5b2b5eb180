import PublicSuffix.Contact.Exemptions
import PublicSuffix.Proofs.Offline.Reports

/-!
# What a contact policy decides

A policy is asked about missing contacts and about nothing else. The report under any policy is
therefore the strictest one with the missing contacts of the exempted entities left out
(`validate_eq_filter`), and this is how reports under different policies compare
(`validate_exempting`): they agree on everything else, order included, and exempting more entities
takes away the missing contacts of these entities only.
-/

namespace PublicSuffix

/-- The entity that an objection misses a contact of. -/
def Violation.contactless? : Violation → Option (Located Entity)
  | .missingContact e => some e
  | _ => none

namespace Offline

variable {policy p q : ContactPolicy} {l : SuffixList}

/-- Whether a policy lets an objection stand: all but the missing contacts of exempted entities. -/
def upholds (policy : ContactPolicy) (v : Violation) : Bool :=
  match v.contactless? with
  | some e => !policy e.value.info.name
  | none => true

theorem upholds_of_contactless? {v : Violation} (h : v.contactless? = none) :
    upholds policy v = true := by
  rw [upholds, h]

/-! ## One policy -/

theorem entityViolations_eq_filter (policy : ContactPolicy) (e : Located Entity) :
    entityViolations policy e =
      (entityViolations (fun _ => false) e).filter (upholds policy) := by
  rw [entityViolations, entityViolations, List.filter_append]
  congr 1
  · split
    · rfl
    · rfl
  · by_cases hm : e.value.info.maintainers = []
    · cases hp : policy e.value.info.name with
      | true => simp [hm, upholds, Violation.contactless?, hp]
      | false => simp [hm, upholds, Violation.contactless?, hp]
    · simp [hm]

theorem contactViolations_eq_filter (policy : ContactPolicy) (l : SuffixList) :
    contactViolations policy l =
      (contactViolations (fun _ => false) l).filter (upholds policy) := by
  rw [contactViolations, contactViolations]
  cases l.section? privateSection with
  | none => rfl
  | some b =>
    dsimp only
    rw [List.filter_flatMap]
    apply List.flatMap_congr
    intro e _
    exact entityViolations_eq_filter policy e

theorem contactless?_structure {v : Violation} (h : v ∈ structureViolations l) :
    v.contactless? = none := by
  rcases mem_structureViolations.mp h with ⟨_, _, _, rfl⟩ | ⟨_, _, _, rfl⟩ | ⟨_, _, rfl⟩
  · rfl
  · rfl
  · rfl

theorem contactless?_rule {v : Violation} (h : v ∈ ruleViolations l) : v.contactless? = none := by
  rcases mem_ruleViolations.mp h with ⟨_, _, _, rfl⟩ | ⟨_, _, _, rfl⟩ |
    ⟨_, _, _, _, ⟨_, _, _, rfl⟩ | ⟨_, _, _, _, rfl⟩⟩
  · rfl
  · rfl
  · rfl
  · rfl

/-- A policy leaves objections out of the strictest report and does nothing else. -/
theorem validate_eq_filter (policy : ContactPolicy) (l : SuffixList) :
    validate policy l = (validate (fun _ => false) l).filter (upholds policy) := by
  have hstructure : (structureViolations l).filter (upholds policy) = structureViolations l := by
    apply List.filter_eq_self.mpr
    intro v hv
    exact upholds_of_contactless? (contactless?_structure hv)
  have hrules : (ruleViolations l).filter (upholds policy) = ruleViolations l := by
    apply List.filter_eq_self.mpr
    intro v hv
    exact upholds_of_contactless? (contactless?_rule hv)
  rw [validate, validate, List.filter_append, List.filter_append, hstructure, hrules,
    ← contactViolations_eq_filter]

/-! ## Two policies -/

theorem validate_of_le (h : ∀ name, p name = true → q name = true) (l : SuffixList) :
    validate q l = (validate p l).filter (upholds q) := by
  rw [validate_eq_filter p, List.filter_filter, validate_eq_filter q]
  apply List.filter_congr
  intro v _
  unfold upholds
  cases v.contactless? with
  | none => rfl
  | some e =>
    cases hp : p e.value.info.name with
    | false => simp [hp]
    | true => simp [hp, h _ hp]

theorem filter_contactless?_isNone (policy : ContactPolicy) (l : SuffixList) :
    (validate policy l).filter (·.contactless?.isNone) =
      (validate (fun _ => false) l).filter (·.contactless?.isNone) := by
  rw [validate_eq_filter, List.filter_filter]
  apply List.filter_congr
  intro v _
  unfold upholds
  cases v.contactless? with
  | none => rfl
  | some e => rfl

/-! ## The contacts that are missed -/

/-- An entity that is to name a maintainer and does not. -/
structure Contactless (policy : ContactPolicy) (l : SuffixList) (e : Located Entity) : Prop where
  private_section : ∃ b, IsPrivateSection l b ∧ e ∈ select Block.entity? b.below
  changed : e.value.changed = true
  maintainers : e.value.info.maintainers = []
  not_exempted : policy e.value.info.name = false

/-- What a policy asks of a changed entity. -/
def lacksContact (policy : ContactPolicy) (e : Located Entity) : Bool :=
  e.value.info.maintainers = [] ∧ policy e.value.info.name = false

theorem filterMap_entityViolations (policy : ContactPolicy) (e : Located Entity) :
    (entityViolations policy e).filterMap Violation.contactless? =
      (Option.guard (lacksContact policy) e).toList := by
  have hlacks : lacksContact policy e = true ↔
      e.value.info.maintainers = [] ∧ policy e.value.info.name = false := decide_eq_true_iff
  rw [entityViolations, List.filterMap_append, Option.guard]
  by_cases h : e.value.info.maintainers = [] ∧ policy e.value.info.name = false
  · rw [if_pos h, if_pos (hlacks.mpr h)]
    split <;> rfl
  · rw [if_neg h, if_neg (mt hlacks.mp h)]
    split <;> rfl

/-- Each changed entity is asked once, in its turn. -/
theorem filterMap_validate (policy : ContactPolicy) (l : SuffixList) :
    (validate policy l).filterMap Violation.contactless? =
      match l.section? privateSection with
      | none => []
      | some b => (changedEntities b).filter (lacksContact policy) := by
  have hstructure : (structureViolations l).filterMap Violation.contactless? = [] :=
    List.filterMap_eq_nil_iff.mpr fun v hv => contactless?_structure hv
  have hrules : (ruleViolations l).filterMap Violation.contactless? = [] :=
    List.filterMap_eq_nil_iff.mpr fun v hv => contactless?_rule hv
  rw [validate, List.filterMap_append, List.filterMap_append, hstructure, hrules, List.append_nil,
    List.append_nil, contactViolations]
  cases l.section? privateSection with
  | none => rfl
  | some b =>
    dsimp only
    rw [List.filterMap_flatMap]
    simp only [filterMap_entityViolations]
    rw [← List.filterMap_eq_flatMap_toList, List.filterMap_eq_filter]

theorem increasing_contactless (policy : ContactPolicy) (l : SuffixList) :
    Increasing ((validate policy l).filterMap Violation.contactless?) := by
  rw [filterMap_validate]
  cases l.section? privateSection with
  | none => exact List.Pairwise.nil
  | some b =>
    have hbelow : Increasing b.below := Block.increasing_located b.index b.value
    exact ((hbelow.select Block.entity?).filter _).filter _

theorem mem_contactless {e : Located Entity} :
    e ∈ (validate policy l).filterMap Violation.contactless? ↔ Contactless policy l e := by
  rw [filterMap_validate]
  constructor
  · intro h
    cases hsection : l.section? privateSection with
    | none =>
      rw [hsection] at h
      cases h
    | some b =>
      rw [hsection] at h
      obtain ⟨he, hlacks⟩ := List.mem_filter.mp h
      obtain ⟨he, hchanged⟩ := List.mem_filter.mp he
      obtain ⟨hmaintainers, hpolicy⟩ := of_decide_eq_true hlacks
      exact ⟨⟨b, section?_eq_some_iff.mp hsection, he⟩, hchanged, hmaintainers, hpolicy⟩
  · rintro ⟨⟨b, hb, he⟩, hchanged, hmaintainers, hpolicy⟩
    rw [section?_eq_some_iff.mpr hb]
    apply List.mem_filter.mpr
    exact ⟨List.mem_filter.mpr ⟨he, hchanged⟩, decide_eq_true ⟨hmaintainers, hpolicy⟩⟩

/-- **Reports under different policies** agree on everything but missing contacts, order included.
A policy misses the contacts of all entities that have to give one and do not, in their order. To
exempt more entities takes away the missing contacts of these and nothing else. -/
theorem validate_exempting (l : SuffixList) (p q : ContactPolicy) :
    (validate p l).filter (·.contactless?.isNone) = (validate q l).filter (·.contactless?.isNone) ∧
    (∀ e, .unnamedEntity e ∈ validate p l → .unnamedEntity e ∈ validate q l) ∧
    Increasing ((validate p l).filterMap Violation.contactless?) ∧
    (∀ e, e ∈ (validate p l).filterMap Violation.contactless? ↔ Contactless p l e) ∧
    ∀ A B : Exemptions, (∀ name ∈ A, name ∈ B) →
      validate B.policy l = (validate A.policy l).filter (upholds B.policy) := by
  have hsame : (validate p l).filter (·.contactless?.isNone) =
      (validate q l).filter (·.contactless?.isNone) :=
    (filter_contactless?_isNone p l).trans (filter_contactless?_isNone q l).symm
  refine ⟨hsame, ?_, increasing_contactless p l, fun e => mem_contactless, ?_⟩
  · intro e he
    have hp : .unnamedEntity e ∈ (validate p l).filter (·.contactless?.isNone) :=
      List.mem_filter.mpr ⟨he, rfl⟩
    rw [hsame] at hp
    exact (List.mem_filter.mp hp).1
  · intro A B hsub
    apply validate_of_le
    intro name hname
    exact Exemptions.contains_iff.mpr (hsub name (Exemptions.contains_iff.mp hname))

/-- Two changed entities of one section, without maintainers. The first one has no name either. -/
def contactless : SuffixList where
  blocks := [.group (.ofSection { name := icannSection }) [],
    .group (.ofSection { name := privateSection }) [
      .group (.ofEntity { info := { name := "" }, changed := true }) [],
      .group (.ofEntity { info := { name := "Example" }, changed := true }) []]]

/-- With the second entity exempted, both objections to the first one stay. -/
theorem validate_exempting_second :
    (∀ name ∈ Exemptions.empty, name ∈ Exemptions.ofNames ["Example"]) ∧
    validate (Exemptions.ofNames ["Example"]).policy contactless =
      [.unnamedEntity ⟨3, { info := { name := "" }, changed := true }⟩,
        .missingContact ⟨3, { info := { name := "" }, changed := true }⟩] := by
  have hsub : ∀ name ∈ Exemptions.empty, name ∈ Exemptions.ofNames ["Example"] := by
    intro name hname
    cases hname
  have hreport := (validate_exempting contactless .everyone .everyone).2.2.2.2 _ _ hsub
  exact ⟨hsub, hreport.trans (by decide +kernel)⟩

end Offline

end PublicSuffix
