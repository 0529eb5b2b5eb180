import PublicSuffix.Offline.Rules
import PublicSuffix.Proofs.Offline.Rivals

/-!
# Lists without objections

`validate_eq_nil_iff`: a list passes the rules that need no network if and only if it is
`Acceptable`, which says for all blocks and pairs of blocks what the rules look for by scans. The
rules are taken one by one. The rule on excluded suffixes consults the representatives that the
scan of the suffixes leaves, and these answer for all suffixes only because the scan has found no
rivals.
-/

namespace PublicSuffix.Offline

/-! ## What a list has to be like -/

/-- Different nodes have different keys if one of them is changed. -/
def Distinct {κ α : Type} (key : α → κ) (changed : α → Bool) (xs : List (Located α)) : Prop :=
  ∀ x ∈ xs, ∀ y ∈ xs, x.index ≠ y.index → (changed x.value = true ∨ changed y.value = true) →
    key x.value ≠ key y.value

/-- The first block of a list that opens a private section. -/
def IsPrivateSection (l : SuffixList) (b : Located Block) : Prop :=
  b ∈ l.located ∧ b.value.opensSection privateSection = true ∧
    ∀ c ∈ l.located, c.value.opensSection privateSection = true → b.index ≤ c.index

/-- A list to which the rules have no objection. -/
structure Acceptable (policy : ContactPolicy) (l : SuffixList) : Prop where
  /-- Both wanted sections exist. -/
  wanted : ∀ name ∈ wantedSections, ∃ s ∈ l.sections, s.value.name = name
  /-- No changed section has another name. -/
  known : ∀ s ∈ l.sections, s.value.changed = true → s.value.name ∈ wantedSections
  sections : Distinct Section.name Section.changed l.sections
  suffixes : Distinct Suffix.domain Suffix.changed l.suffixes
  wildcards : Distinct Wildcard.domain Wildcard.changed l.wildcards
  /-- Every exception of a changed wildcard gives a name. -/
  exceptions : ∀ w ∈ l.wildcards, w.value.changed = true → ∀ label ∈ w.value.exceptions,
    ∃ name, w.value.domain.child label = .ok name
  /-- No exception gives the name of a suffix, unless wildcard and suffix are unchanged. -/
  excluded : ∀ w ∈ l.wildcards, ∀ label ∈ w.value.exceptions, ∀ s ∈ l.suffixes,
    w.value.domain.child label = .ok s.value.domain →
      w.value.changed = false ∧ s.value.changed = false
  /-- Every changed entity of the first private section has a name, and it has a maintainer or is
  exempted. -/
  contacts : ∀ b, IsPrivateSection l b → ∀ e ∈ select Block.entity? b.below,
    e.value.changed = true → e.value.info.name ≠ "" ∧
      (e.value.info.maintainers ≠ [] ∨ policy e.value.info.name = true)

/-! ## Entities -/

theorem section?_eq_some_iff {l : SuffixList} {b : Located Block} :
    l.section? privateSection = some b ↔ IsPrivateSection l b :=
  l.increasing_located.find?_eq_some_iff

theorem entityViolations_eq_nil_iff {policy : ContactPolicy} {e : Located Entity} :
    entityViolations policy e = [] ↔ e.value.info.name ≠ "" ∧
      (e.value.info.maintainers ≠ [] ∨ policy e.value.info.name = true) := by
  rw [entityViolations, List.append_eq_nil_iff]
  by_cases hm : e.value.info.maintainers = [] <;> simp [hm]

theorem contactViolations_eq_nil_iff {policy : ContactPolicy} {l : SuffixList} :
    contactViolations policy l = [] ↔ ∀ b, IsPrivateSection l b →
      ∀ e ∈ select Block.entity? b.below, e.value.changed = true →
        e.value.info.name ≠ "" ∧
          (e.value.info.maintainers ≠ [] ∨ policy e.value.info.name = true) := by
  simp only [← section?_eq_some_iff, contactViolations]
  cases l.section? privateSection with
  | none => simp
  | some b =>
    simp only [List.flatMap_eq_nil_iff, changedEntities, List.mem_filter, and_imp,
      entityViolations_eq_nil_iff, Option.some.injEq, forall_eq']

/-! ## Blocks that should not occur twice -/

theorem pairwise_compatible_iff {κ α : Type} [DecidableEq κ] (u : Uniqueness κ α)
    {xs : List (Located α)} (h : Increasing xs) :
    xs.Pairwise u.Compatible ↔ Distinct u.key u.changed xs := by
  rw [h.pairwise_iff fun _ _ hxy => hxy.symm]
  refine forall₄_congr fun x hx y hy => forall_congr' fun hne => ?_
  constructor
  · rintro hxy hchanged hkey
    obtain ⟨hxc, hyc⟩ := hxy hkey
    rw [hxc, hyc] at hchanged
    simp at hchanged
  · intro hxy hkey
    by_contra hchanged
    exact hxy (by grind) hkey

/-! ## Sections -/

theorem isUnknown_eq_false_iff {s : Section} :
    isUnknown s = false ↔ (s.changed = true → s.name ∈ wantedSections) := by
  simp [isUnknown]

theorem sectionViolations_eq_nil_iff {x : Located Section × Option (Located Section)} :
    sectionViolations x = [] ↔ isUnknown x.1.value = false ∧ x.2 = none := by
  rw [sectionViolations]
  cases isUnknown x.1.value with
  | true => simp
  | false => cases x.2 <;> simp

theorem missingSections_eq_nil_iff {l : SuffixList} :
    missingSections l = [] ↔ ∀ name ∈ wantedSections, ∃ s ∈ l.sections, s.value.name = name := by
  simp [missingSections]

theorem structureViolations_eq_nil_iff {l : SuffixList} :
    structureViolations l = [] ↔
      (∀ name ∈ wantedSections, ∃ s ∈ l.sections, s.value.name = name) ∧
      (∀ s ∈ l.sections, s.value.changed = true → s.value.name ∈ wantedSections) ∧
      Distinct Section.name Section.changed l.sections := by
  rw [structureViolations, List.append_eq_nil_iff, List.flatMap_eq_nil_iff,
    List.map_eq_nil_iff, missingSections_eq_nil_iff, and_comm]
  refine and_congr_right fun _ => ?_
  simp only [sectionViolations_eq_nil_iff, forall_and]
  rw [sectionUniqueness.forall_mem_scan (P := fun s => isUnknown s.value = false)]
  simp only [isUnknown_eq_false_iff]
  refine and_congr_right fun hknown => ?_
  -- the scan leaves unknown sections out, but there are none any more
  have heligible : ∀ s ∈ l.sections, sectionUniqueness.eligible s.value = true := fun s hs => by
    simp [sectionUniqueness, isUnknown_eq_false_iff.mpr (hknown s hs)]
  rw [sectionUniqueness.scan_eq_none_iff heligible]
  exact pairwise_compatible_iff sectionUniqueness l.increasing_sections

/-! ## Suffixes and wildcards -/

theorem exceptionViolation?_eq_none_iff {kept : List (Located Suffix)} {w : Located Wildcard}
    {label : String} :
    exceptionViolation? kept w label = none ↔
      (w.value.changed = true → ∃ name, w.value.domain.child label = .ok name) ∧
      ∀ name, w.value.domain.child label = .ok name →
        ∀ s, suffixUniqueness.find? kept name = some s →
          w.value.changed = false ∧ s.value.changed = false := by
  rw [exceptionViolation?]
  cases w.value.domain.child label with
  | error e => simp
  | ok name =>
    simp only [Except.ok.injEq, exists_eq', implies_true, true_and, forall_eq']
    cases suffixUniqueness.find? kept name with
    | none => simp
    | some s => simp

/-- Where no suffixes rival, their representatives answer for all of them. -/
theorem excluded_representatives_iff {suffixes : List (Located Suffix)} {w : Located Wildcard}
    {label : String} (h : suffixes.Pairwise suffixUniqueness.Compatible) :
    (∀ name, w.value.domain.child label = .ok name →
      ∀ s, suffixUniqueness.find? (suffixUniqueness.representatives suffixes) name = some s →
        w.value.changed = false ∧ s.value.changed = false) ↔
    ∀ s ∈ suffixes, w.value.domain.child label = .ok s.value.domain →
      w.value.changed = false ∧ s.value.changed = false := by
  constructor
  · intro hrep s hs hchild
    obtain ⟨r, hr⟩ := suffixUniqueness.exists_find?_representatives hs rfl
    have hsame : r.value.changed = s.value.changed :=
      suffixUniqueness.changed_find?_representatives h hs hr
    rw [← hsame]
    exact hrep _ hchild r hr
  · intro hall name hchild s hs
    obtain ⟨hmem, -, rfl⟩ := suffixUniqueness.mem_of_find?_representatives hs
    exact hall s hmem hchild

theorem wildcardViolations_eq_nil_iff {kept : List (Located Suffix)}
    {x : Located Wildcard × Option (Located Wildcard)} :
    wildcardViolations kept x = [] ↔ x.2 = none ∧
      ∀ label ∈ x.1.value.exceptions, exceptionViolation? kept x.1 label = none := by
  rw [wildcardViolations, List.append_eq_nil_iff, List.filterMap_eq_nil_iff, List.map_eq_nil_iff,
    Option.toList_eq_nil_iff]

theorem ruleViolations_eq_nil_iff {l : SuffixList} :
    ruleViolations l = [] ↔
      Distinct Suffix.domain Suffix.changed l.suffixes ∧
      Distinct Wildcard.domain Wildcard.changed l.wildcards ∧
      (∀ w ∈ l.wildcards, w.value.changed = true → ∀ label ∈ w.value.exceptions,
        ∃ name, w.value.domain.child label = .ok name) ∧
      ∀ w ∈ l.wildcards, ∀ label ∈ w.value.exceptions, ∀ s ∈ l.suffixes,
        w.value.domain.child label = .ok s.value.domain →
          w.value.changed = false ∧ s.value.changed = false := by
  have hsuffixes : l.suffixes.Pairwise suffixUniqueness.Compatible ↔
      Distinct Suffix.domain Suffix.changed l.suffixes :=
    pairwise_compatible_iff suffixUniqueness l.increasing_suffixes
  have hwildcards : l.wildcards.Pairwise wildcardUniqueness.Compatible ↔
      Distinct Wildcard.domain Wildcard.changed l.wildcards :=
    pairwise_compatible_iff wildcardUniqueness l.increasing_wildcards
  rw [ruleViolations, List.append_eq_nil_iff, List.flatMap_eq_nil_iff, List.flatMap_eq_nil_iff,
    ← hsuffixes, ← hwildcards]
  simp only [List.map_eq_nil_iff, Option.toList_eq_nil_iff, wildcardViolations_eq_nil_iff]
  rw [forall₂_and, suffixUniqueness.scan_eq_none_iff fun _ _ => rfl,
    wildcardUniqueness.scan_eq_none_iff fun _ _ => rfl,
    wildcardUniqueness.forall_mem_scan (P := fun w => ∀ label ∈ w.value.exceptions,
      exceptionViolation? (suffixUniqueness.representatives l.suffixes) w label = none)]
  refine and_congr_right fun hrivals => and_congr_right fun _ => ?_
  simp only [exceptionViolation?_eq_none_iff, excluded_representatives_iff hrivals]
  constructor
  · intro h
    exact ⟨fun w hw hchanged label hlabel => (h w hw label hlabel).1 hchanged,
      fun w hw label hlabel => (h w hw label hlabel).2⟩
  · rintro ⟨hexceptions, hexcluded⟩ w hw label hlabel
    exact ⟨fun hchanged => hexceptions w hw hchanged label hlabel, hexcluded w hw label hlabel⟩

/-! ## All rules -/

/-- **The rules that need no network** object to nothing if and only if the list is acceptable. -/
theorem validate_eq_nil_iff (policy : ContactPolicy) (l : SuffixList) :
    validate policy l = [] ↔ Acceptable policy l := by
  rw [validate, List.append_eq_nil_iff, List.append_eq_nil_iff, contactViolations_eq_nil_iff,
    structureViolations_eq_nil_iff, ruleViolations_eq_nil_iff]
  constructor
  · rintro ⟨⟨hcontacts, hwanted, hknown, hsections⟩, hsuffixes, hwildcards, hexceptions, hexcluded⟩
    exact ⟨hwanted, hknown, hsections, hsuffixes, hwildcards, hexceptions, hexcluded, hcontacts⟩
  · intro h
    exact ⟨⟨h.contacts, h.wanted, h.known, h.sections⟩, h.suffixes, h.wildcards, h.exceptions,
      h.excluded⟩

end PublicSuffix.Offline
