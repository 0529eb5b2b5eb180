import PublicSuffix.Offline.Rules
import PublicSuffix.Proofs.Document.Comments

/-!
# The offline rules do not see comments

No rule asks for the number of a block: two blocks are compared by what they say, and a scan goes
through them in their order. So if the blocks get other numbers, a validation says the same of the
same blocks, with their new numbers. `validate_eq` puts this together from a lemma for each group of
rules, with the blocks that each group looks at found by the same walks in both lists.
-/

namespace PublicSuffix

/-! ## Violations under other numbers -/

namespace Violation

/-- The same objection to blocks under other numbers. -/
def renumber (φ : Nat → Nat) : Violation → Violation
  | unnamedEntity e => .unnamedEntity (e.renumber φ)
  | missingContact e => .missingContact (e.renumber φ)
  | unknownSection s => .unknownSection (s.renumber φ)
  | duplicateSection s first => .duplicateSection (s.renumber φ) (first.renumber φ)
  | missingSection name => .missingSection name
  | duplicateSuffix name s first => .duplicateSuffix name (s.renumber φ) (first.renumber φ)
  | duplicateWildcard name w first => .duplicateWildcard name (w.renumber φ) (first.renumber φ)
  | excludedSuffix s w => .excludedSuffix (s.renumber φ) (w.renumber φ)
  | badException w label e => .badException (w.renumber φ) label e
  | wrongChange s n declared => .wrongChange (s.renumber φ) n declared
  | failedLookup s e => .failedLookup (s.renumber φ) e
  | unverifiableWildcard w => .unverifiableWildcard (w.renumber φ)

variable (φ : Nat → Nat) (v : Violation)

theorem nodes_renumber : (v.renumber φ).nodes = v.nodes.map φ := by cases v <;> rfl

theorem lines?_renumber : (v.renumber φ).lines? = v.lines? := by cases v <;> rfl

theorem message_renumber : (v.renumber φ).message = v.message := by
  cases v with
  | wrongChange s n declared => cases declared <;> rfl
  | _ => rfl

end Violation

/-! ## Scans -/

namespace Uniqueness

variable {κ α : Type} [DecidableEq κ] (u : Uniqueness κ α) (φ : Nat → Nat)

theorem find?_renumber (kept : List (Located α)) (k : κ) :
    u.find? (kept.map (Located.renumber φ)) k = (u.find? kept k).map (Located.renumber φ) :=
  List.find?_map

theorem rival?_renumber (kept : List (Located α)) (x : Located α) :
    u.rival? (kept.map (Located.renumber φ)) (x.renumber φ) =
      (u.rival? kept x).map (Located.renumber φ) := by
  rw [rival?, rival?, Located.value_renumber, find?_renumber]
  split
  · rw [Option.filter_map]
    rfl
  · rfl

theorem keep_renumber (kept : List (Located α)) (x : Located α) :
    u.keep (kept.map (Located.renumber φ)) (x.renumber φ) =
      (u.keep kept x).map (Located.renumber φ) := by
  simp only [keep, rival?_renumber, Option.map_eq_none_iff, apply_ite (List.map _)]
  rfl

theorem scanFrom_renumber (kept xs : List (Located α)) :
    u.scanFrom (kept.map (Located.renumber φ)) (xs.map (Located.renumber φ)) =
      (u.scanFrom kept xs).map
        (Prod.map (Located.renumber φ) (Option.map (Located.renumber φ))) := by
  induction xs generalizing kept with
  | nil => rfl
  | cons x xs ih =>
    rw [List.map_cons, scanFrom, scanFrom, List.map_cons, rival?_renumber, keep_renumber, ih]
    rfl

theorem scan_renumber (xs : List (Located α)) :
    u.scan (xs.map (Located.renumber φ)) =
      (u.scan xs).map (Prod.map (Located.renumber φ) (Option.map (Located.renumber φ))) :=
  u.scanFrom_renumber φ [] xs

theorem foldl_keep_renumber (kept xs : List (Located α)) :
    (xs.map (Located.renumber φ)).foldl u.keep (kept.map (Located.renumber φ)) =
      (xs.foldl u.keep kept).map (Located.renumber φ) := by
  induction xs generalizing kept with
  | nil => rfl
  | cons x xs ih => rw [List.map_cons, List.foldl_cons, List.foldl_cons, keep_renumber, ih]

theorem representatives_renumber (xs : List (Located α)) :
    u.representatives (xs.map (Located.renumber φ)) =
      (u.representatives xs).map (Located.renumber φ) :=
  u.foldl_keep_renumber φ [] xs

end Uniqueness

namespace Offline

variable {φ : Nat → Nat} {l m : SuffixList}

/-! ## Entities -/

theorem entityViolations_renumber (policy : ContactPolicy) (e : Located Entity) :
    entityViolations policy (e.renumber φ) =
      (entityViolations policy e).map (Violation.renumber φ) := by
  rw [entityViolations, entityViolations, Located.value_renumber, List.map_append]
  congr 1
  · split <;> rfl
  · split <;> rfl

theorem changedEntities_eq {x y : Located Block} (h : x.Twin φ y) :
    changedEntities y = (changedEntities x).map (Located.renumber φ) := by
  rw [changedEntities, changedEntities, h.below.select overlooks_entity?, List.filter_map]
  rfl

theorem contactViolations_eq (policy : ContactPolicy) (h : Alike φ l.located m.located) :
    contactViolations policy m = (contactViolations policy l).map (Violation.renumber φ) := by
  have hsection := SuffixList.rel_section? h privateSection
  rw [contactViolations, contactViolations]
  generalize l.section? privateSection = s at hsection
  generalize m.section? privateSection = t at hsection
  cases hsection with
  | none => rfl
  | some hst =>
    dsimp only
    rw [changedEntities_eq hst, List.flatMap_map, List.map_flatMap]
    exact List.flatMap_congr fun e _ => entityViolations_renumber policy e

/-! ## Sections -/

theorem sectionViolations_renumber (x : Located Section × Option (Located Section)) :
    sectionViolations (x.map (Located.renumber φ) (Option.map (Located.renumber φ))) =
      (sectionViolations x).map (Violation.renumber φ) := by
  obtain ⟨s, first?⟩ := x
  show (if isUnknown s.value then _ else _) = _
  rw [sectionViolations]
  split
  · rfl
  · cases first? <;> rfl

theorem structureViolations_eq (h : Alike φ l.located m.located) :
    structureViolations m = (structureViolations l).map (Violation.renumber φ) := by
  have hmissing : missingSections m = missingSections l := by
    rw [missingSections, missingSections, SuffixList.sections_eq h]
    simp only [List.any_map]
    rfl
  rw [structureViolations, structureViolations, SuffixList.sections_eq h,
    Uniqueness.scan_renumber, hmissing, List.map_append, List.flatMap_map, List.map_flatMap,
    List.map_map]
  congr 1
  exact List.flatMap_congr fun x _ => sectionViolations_renumber x

/-! ## Suffixes and wildcards -/

theorem exceptionViolation?_renumber (suffixes : List (Located Suffix)) (w : Located Wildcard)
    (label : String) :
    exceptionViolation? (suffixes.map (Located.renumber φ)) (w.renumber φ) label =
      (exceptionViolation? suffixes w label).map (Violation.renumber φ) := by
  rw [exceptionViolation?, exceptionViolation?, Located.value_renumber]
  cases w.value.domain.child label with
  | error e =>
    dsimp only
    split <;> rfl
  | ok name =>
    dsimp only
    rw [Uniqueness.find?_renumber]
    cases suffixUniqueness.find? suffixes name with
    | none => rfl
    | some s =>
      show (if w.value.changed || s.value.changed then _ else _) = _
      dsimp only
      split <;> rfl

theorem wildcardViolations_renumber (suffixes : List (Located Suffix))
    (x : Located Wildcard × Option (Located Wildcard)) :
    wildcardViolations (suffixes.map (Located.renumber φ))
        (x.map (Located.renumber φ) (Option.map (Located.renumber φ))) =
      (wildcardViolations suffixes x).map (Violation.renumber φ) := by
  obtain ⟨w, first?⟩ := x
  rw [wildcardViolations, wildcardViolations, List.map_append, List.map_filterMap]
  congr 1
  · cases first? <;> rfl
  · exact List.filterMap_congr fun label _ => exceptionViolation?_renumber suffixes w label

theorem ruleViolations_eq (h : Alike φ l.located m.located) :
    ruleViolations m = (ruleViolations l).map (Violation.renumber φ) := by
  rw [ruleViolations, ruleViolations, SuffixList.suffixes_eq h, SuffixList.wildcards_eq h,
    Uniqueness.scan_renumber, Uniqueness.scan_renumber, Uniqueness.representatives_renumber,
    List.map_append, List.flatMap_map, List.flatMap_map, List.map_flatMap, List.map_flatMap]
  congr 1
  · refine List.flatMap_congr fun x _ => ?_
    obtain ⟨s, first?⟩ := x
    cases first? <;> rfl
  · exact List.flatMap_congr fun x _ => wildcardViolations_renumber _ x

/-- Comments do not matter to the offline rules. -/
theorem validate_eq (policy : ContactPolicy) (h : Alike φ l.located m.located) :
    validate policy m = (validate policy l).map (Violation.renumber φ) := by
  rw [validate, validate, contactViolations_eq policy h, structureViolations_eq h,
    ruleViolations_eq h, List.map_append, List.map_append]

end Offline

end PublicSuffix
