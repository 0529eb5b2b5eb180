import PublicSuffix.Proofs.Offline.Acceptance
import PublicSuffix.Proofs.Offline.Pairs

/-!
# What is in a report

The report of a validation is put together from three groups of rules. For each group there is one
lemma that says which objections it makes and when (`mem_contactViolations`,
`mem_structureViolations`, `mem_ruleViolations`), so that what is said of a report elsewhere does
not go through the rules again.
-/

namespace PublicSuffix.Offline

variable {policy : ContactPolicy} {l : SuffixList} {v : Violation}

theorem mem_validate : v ∈ validate policy l ↔
    v ∈ contactViolations policy l ∨ v ∈ structureViolations l ∨ v ∈ ruleViolations l := by
  rw [validate, List.mem_append, List.mem_append, or_assoc]

/-! ## Entities -/

theorem mem_entityViolations {e : Located Entity} : v ∈ entityViolations policy e ↔
    (e.value.info.name = "" ∧ v = .unnamedEntity e) ∨
      (e.value.info.maintainers = [] ∧ policy e.value.info.name = false ∧
        v = .missingContact e) := by
  rw [entityViolations, List.mem_append]
  refine or_congr ?_ ?_
  · split <;> simp_all
  · split <;> simp_all

theorem mem_contactViolations : v ∈ contactViolations policy l ↔
    ∃ b, IsPrivateSection l b ∧ ∃ e ∈ select Block.entity? b.below, e.value.changed = true ∧
      ((e.value.info.name = "" ∧ v = .unnamedEntity e) ∨
        (e.value.info.maintainers = [] ∧ policy e.value.info.name = false ∧
          v = .missingContact e)) := by
  simp only [← section?_eq_some_iff, contactViolations]
  cases l.section? privateSection with
  | none => simp
  | some b =>
    simp only [List.mem_flatMap, changedEntities, List.mem_filter, mem_entityViolations,
      Option.some.injEq, exists_eq_left', and_assoc]

/-! ## Sections -/

theorem mem_missingSections {name : String} : name ∈ missingSections l ↔
    name ∈ wantedSections ∧ ∀ s ∈ l.sections, s.value.name ≠ name := by
  simp [missingSections]

theorem isUnknown_iff {s : Section} :
    isUnknown s = true ↔ s.changed = true ∧ s.name ∉ wantedSections := by
  simp [isUnknown]

theorem mem_sectionViolations {x : Located Section × Option (Located Section)} :
    v ∈ sectionViolations x ↔ (isUnknown x.1.value = true ∧ v = .unknownSection x.1) ∨
      (isUnknown x.1.value = false ∧ ∃ y, x.2 = some y ∧ v = .duplicateSection x.1 y) := by
  rw [sectionViolations]
  cases isUnknown x.1.value with
  | true => simp
  | false => simp [@eq_comm _ v]

theorem mem_structureViolations : v ∈ structureViolations l ↔
    (∃ s ∈ l.sections, isUnknown s.value = true ∧ v = .unknownSection s) ∨
    (∃ x y, (x, some y) ∈ sectionUniqueness.scan l.sections ∧ v = .duplicateSection x y) ∨
    ∃ name ∈ missingSections l, v = .missingSection name := by
  rw [structureViolations, List.mem_append, List.mem_flatMap, List.mem_map, ← or_assoc]
  refine or_congr ?_ (by simp only [eq_comm])
  simp only [mem_sectionViolations]
  constructor
  · rintro ⟨⟨x, r⟩, hx, ⟨hunknown, rfl⟩ | ⟨-, y, rfl, rfl⟩⟩
    · exact .inl ⟨x, sectionUniqueness.mem_iff_exists_scan.mpr ⟨r, hx⟩, hunknown, rfl⟩
    · exact .inr ⟨x, y, hx, rfl⟩
  · rintro (⟨s, hs, hunknown, rfl⟩ | ⟨x, y, hxy, rfl⟩)
    · obtain ⟨r, hr⟩ := sectionUniqueness.mem_iff_exists_scan.mp hs
      exact ⟨_, hr, .inl ⟨hunknown, rfl⟩⟩
    · -- an unknown section takes no part in the scan
      have heligible := ((sectionUniqueness.mem_scan_iff l.increasing_sections).mp hxy).2.1
      have hknown : isUnknown x.value = false := by simpa [sectionUniqueness] using heligible
      exact ⟨_, hxy, .inr ⟨hknown, y, rfl, rfl⟩⟩

/-! ## Suffixes and wildcards -/

theorem exceptionViolation?_eq_some_iff {kept : List (Located Suffix)} {w : Located Wildcard}
    {label : String} : exceptionViolation? kept w label = some v ↔
      (∃ error, w.value.domain.child label = .error error ∧ w.value.changed = true ∧
        v = .badException w label error) ∨
      ∃ name s, w.value.domain.child label = .ok name ∧ suffixUniqueness.find? kept name = some s ∧
        (w.value.changed = true ∨ s.value.changed = true) ∧ v = .excludedSuffix s w := by
  rw [exceptionViolation?]
  cases w.value.domain.child label with
  | error e =>
    simp only [Option.ite_none_right_eq_some, Option.some.injEq, Except.error.injEq, reduceCtorEq,
      false_and, exists_false, or_false, exists_eq_left', @eq_comm _ v]
  | ok name =>
    simp only [reduceCtorEq, false_and, exists_false, false_or, Except.ok.injEq, ↓existsAndEq,
      true_and]
    cases suffixUniqueness.find? kept name with
    | none => simp
    | some s => simp [@eq_comm _ v]

/-- Which suffix stands for the name that an exception gives. -/
theorem find?_representatives_suffixes {name : Name} {s : Located Suffix} :
    suffixUniqueness.find? (suffixUniqueness.representatives l.suffixes) name = some s ↔
      name = s.value.domain ∧
        suffixUniqueness.Stands (suffixUniqueness.peers l.suffixes s.value.domain) s := by
  rw [suffixUniqueness.find?_representatives, suffixUniqueness.standing_eq_some_iff
    (suffixUniqueness.increasing_peers l.increasing_suffixes _)]
  constructor
  · intro h
    obtain rfl : s.value.domain = name := (suffixUniqueness.mem_peers.mp h.mem).2.2
    exact ⟨rfl, h⟩
  · rintro ⟨rfl, h⟩
    exact h

theorem mem_wildcardViolations {kept : List (Located Suffix)}
    {x : Located Wildcard × Option (Located Wildcard)} : v ∈ wildcardViolations kept x ↔
      (∃ y, x.2 = some y ∧ v = .duplicateWildcard x.1.value.display x.1 y) ∨
        ∃ label ∈ x.1.value.exceptions, exceptionViolation? kept x.1 label = some v := by
  rw [wildcardViolations, List.mem_append, List.mem_filterMap, List.mem_map]
  simp only [Option.mem_toList, @eq_comm _ v]

theorem mem_ruleViolations : v ∈ ruleViolations l ↔
    (∃ x y, (x, some y) ∈ suffixUniqueness.scan l.suffixes ∧
      v = .duplicateSuffix x.value.domain.text x y) ∨
    (∃ x y, (x, some y) ∈ wildcardUniqueness.scan l.wildcards ∧
      v = .duplicateWildcard x.value.display x y) ∨
    ∃ w ∈ l.wildcards, ∃ label ∈ w.value.exceptions,
      (∃ error, w.value.domain.child label = .error error ∧ w.value.changed = true ∧
        v = .badException w label error) ∨
      ∃ s, w.value.domain.child label = .ok s.value.domain ∧
        suffixUniqueness.Stands (suffixUniqueness.peers l.suffixes s.value.domain) s ∧
        (w.value.changed = true ∨ s.value.changed = true) ∧ v = .excludedSuffix s w := by
  rw [ruleViolations, List.mem_append, List.mem_flatMap, List.mem_flatMap]
  refine or_congr ?_ ?_
  · simp only [List.mem_map, Option.mem_toList, @eq_comm _ v]
    constructor
    · rintro ⟨⟨x, r⟩, hx, y, rfl, rfl⟩
      exact ⟨x, y, hx, rfl⟩
    · rintro ⟨x, y, hxy, rfl⟩
      exact ⟨_, hxy, y, rfl, rfl⟩
  · simp only [mem_wildcardViolations, exceptionViolation?_eq_some_iff,
      find?_representatives_suffixes]
    constructor
    · rintro ⟨⟨w, r⟩, hp, ⟨y, rfl, rfl⟩ | ⟨label, hlabel, hv⟩⟩
      · exact .inl ⟨w, y, hp, rfl⟩
      · refine .inr ⟨w, wildcardUniqueness.mem_iff_exists_scan.mpr ⟨r, hp⟩, label, hlabel, ?_⟩
        rcases hv with hv | ⟨_, s, hchild, ⟨rfl, hs⟩, hv⟩
        · exact .inl hv
        · exact .inr ⟨s, hchild, hs, hv⟩
    · rintro (⟨x, y, hxy, rfl⟩ | ⟨w, hw, label, hlabel, hv⟩)
      · exact ⟨_, hxy, .inl ⟨y, rfl, rfl⟩⟩
      · obtain ⟨r, hr⟩ := wildcardUniqueness.mem_iff_exists_scan.mp hw
        refine ⟨_, hr, .inr ⟨label, hlabel, ?_⟩⟩
        rcases hv with hv | ⟨s, hchild, hs, hv⟩
        · exact .inl hv
        · exact .inr ⟨_, s, hchild, ⟨rfl, hs⟩, hv⟩

end PublicSuffix.Offline
