import PublicSuffix.Proofs.Offline.Reports

/-!
# Reports node by node

What is reported at a node depends on the nodes of its key alone. A block repeats the first earlier
block of its key if that one is changed, and otherwise, if it is changed itself, the last unchanged
one before it (`repeated?`). The representatives that a scan hands from block to block come to just
that (`rival?_eq_repeated?`), so the objections to the sections (`structureViolations_nodewise`) and
to the suffixes and wildcards (`ruleViolations_nodewise`) are listed by a walk that remembers
nothing.
-/

namespace PublicSuffix

namespace Uniqueness

variable {κ α : Type} [DecidableEq κ] (u : Uniqueness κ α)
variable {xs : List (Located α)} {x : Located α} {k : κ}

/-! ## Repetitions -/

/-- The blocks of a key, whether a scan looks at them or not. -/
def namesakes (xs : List (Located α)) (k : κ) : List (Located α) :=
  xs.filter fun y => u.key y.value = k

/-- The blocks of its key that come before `x`. -/
def before (xs : List (Located α)) (x : Located α) : List (Located α) :=
  u.namesakes (xs.filter fun y => y.index < x.index) (u.key x.value)

/-- The earlier block that `x` repeats. -/
def repeated? (xs : List (Located α)) (x : Located α) : Option (Located α) :=
  match u.before xs x with
  | [] => none
  | first :: rest =>
    if u.changed first.value then some first
    else if u.changed x.value then ((first :: rest).filter fun y => !u.changed y.value).getLast?
    else none

theorem peers_eq_namesakes (h : ∀ y ∈ xs, u.key y.value = k → u.eligible y.value = true) :
    u.peers xs k = u.namesakes xs k := by
  apply List.filter_congr
  intro y hy
  by_cases hk : u.key y.value = k
  · simp [hk, h y hy hk]
  · simp [hk]

theorem rival?_eq_filter (he : u.eligible x.value = true) :
    u.rival? (u.representatives xs) x = (u.standing (u.peers xs (u.key x.value))).filter
      fun y => u.changed x.value || u.changed y.value := by
  rw [rival?, if_pos he, find?_representatives]

/-- A scan holds against a block what it repeats. -/
theorem rival?_eq_repeated? (he : ∀ y ∈ xs, u.key y.value = u.key x.value →
    u.eligible y.value = true) (hx : u.eligible x.value = true) :
    u.rival? (u.representatives (xs.filter fun y => y.index < x.index)) x = u.repeated? xs x := by
  have hpeers : u.peers (xs.filter fun y => y.index < x.index) (u.key x.value) = u.before xs x :=
    u.peers_eq_namesakes fun y hy => he y (List.mem_filter.mp hy).1
  rw [u.rival?_eq_filter hx, hpeers, repeated?]
  cases u.before xs x with
  | nil => rfl
  | cons first rest =>
    dsimp only
    rw [standing]
    by_cases hf : u.changed first.value = true
    · rw [if_pos hf, if_pos hf]
      simp [hf]
    · rw [if_neg hf, if_neg hf]
      cases hlast : ((first :: rest).filter fun y => !u.changed y.value).getLast? with
      | none => simp
      | some y =>
        have hy : u.changed y.value = false := by
          simpa using (List.mem_filter.mp (List.mem_of_getLast? hlast)).2
        cases u.changed x.value <;> simp [hy]

theorem scan_eq_map_repeated? (h : Increasing xs) (he : ∀ y, u.eligible y = true) :
    u.scan xs = xs.map fun x => (x, u.repeated? xs x) := by
  rw [u.scan_eq_map h]
  apply List.map_congr_left
  intro x _
  rw [u.rival?_eq_repeated? (fun y _ _ => he y.value) (he x.value)]

end Uniqueness

namespace Offline

variable {l : SuffixList}

/-! ## Sections -/

/-- What is reported at a section. -/
def atSection (l : SuffixList) (s : Located Section) : List Violation :=
  if s.value.name ∈ wantedSections then
    (sectionUniqueness.repeated? l.sections s).toList.map (.duplicateSection s)
  else if s.value.changed then [.unknownSection s]
  else []

/-- What is reported if no section has a name. -/
def atMissing (l : SuffixList) (name : String) : List Violation :=
  if ∃ s ∈ l.sections, s.value.name = name then [] else [.missingSection name]

theorem eligible_of_wanted {s : Section} (h : s.name ∈ wantedSections) :
    sectionUniqueness.eligible s = true := by
  have hknown : isUnknown s = false := isUnknown_eq_false_iff.mpr fun _ => h
  simp [sectionUniqueness, hknown]

/-- Sections of a name that is not wanted rival nothing: those that take part in the scan are
unchanged. -/
theorem rival?_of_unwanted {xs : List (Located Section)} {s : Located Section}
    (h : s.value.name ∉ wantedSections) :
    sectionUniqueness.rival? (sectionUniqueness.representatives xs) s = none := by
  have hunchanged : ∀ {t : Section}, t.name ∉ wantedSections →
      sectionUniqueness.eligible t = true → t.changed = false := by
    intro t ht he
    simpa [sectionUniqueness, isUnknown, ht] using he
  cases hrival : sectionUniqueness.rival? (sectionUniqueness.representatives xs) s with
  | none => rfl
  | some t =>
    obtain ⟨he, hfind, hchanged⟩ := sectionUniqueness.rival?_eq_some_iff.mp hrival
    obtain ⟨-, hte, hkey⟩ := sectionUniqueness.mem_of_find?_representatives hfind
    have hname : t.value.name = s.value.name := hkey
    have hs : sectionUniqueness.changed s.value = false := hunchanged h he
    have ht : sectionUniqueness.changed t.value = false := hunchanged (hname ▸ h) hte
    rw [hs, ht] at hchanged
    simp at hchanged

theorem sectionViolations_rival? (l : SuffixList) (s : Located Section) :
    sectionViolations (s, sectionUniqueness.rival? (sectionUniqueness.representatives
      (l.sections.filter fun t => t.index < s.index)) s) = atSection l s := by
  rw [sectionViolations, atSection]
  by_cases hwanted : s.value.name ∈ wantedSections
  · have heligible : ∀ t ∈ l.sections, t.value.name = s.value.name →
        sectionUniqueness.eligible t.value = true := fun t _ hname =>
      eligible_of_wanted (hname ▸ hwanted)
    have hrival := sectionUniqueness.rival?_eq_repeated? heligible (eligible_of_wanted hwanted)
    have hknown : ¬isUnknown s.value = true := by simp [isUnknown, hwanted]
    rw [if_pos hwanted, if_neg hknown, hrival]
  · rw [if_neg hwanted, rival?_of_unwanted hwanted]
    cases hchanged : s.value.changed with
    | true => simp [isUnknown, hwanted, hchanged]
    | false => simp [isUnknown, hchanged]

/-- The scan remembers every wanted name that some section has. -/
theorem find?_representatives_isNone_iff {name : String} (h : name ∈ wantedSections) :
    (sectionUniqueness.find? (sectionUniqueness.representatives l.sections) name).isNone = true ↔
      ∀ s ∈ l.sections, s.value.name ≠ name := by
  rw [Option.isNone_iff_eq_none]
  constructor
  · intro hnone s hs hname
    subst hname
    obtain ⟨t, ht⟩ := sectionUniqueness.exists_find?_representatives hs (eligible_of_wanted h)
    cases hnone.symm.trans ht
  · intro hmissing
    cases hfind : sectionUniqueness.find? (sectionUniqueness.representatives l.sections) name with
    | none => rfl
    | some s =>
      obtain ⟨hs, -, hname⟩ := sectionUniqueness.mem_of_find?_representatives hfind
      exact absurd hname (hmissing s hs)

theorem map_missingSections (l : SuffixList) :
    (missingSections l).map .missingSection =
      atMissing l icannSection ++ atMissing l privateSection := by
  have hfilter : ∀ name, ([name].filter fun name =>
      !l.sections.any fun s => s.value.name == name).map .missingSection = atMissing l name := by
    intro name
    rw [atMissing]
    by_cases h : ∃ s ∈ l.sections, s.value.name = name
    · simpa [if_pos h] using h
    · simpa [if_neg h] using h
  rw [← hfilter, ← hfilter, ← List.map_append, ← List.filter_append]
  rfl

theorem wanted_of_duplicateSection {s t f : Located Section}
    (h : .duplicateSection s f ∈ atSection l t) : s.value.name ∈ wantedSections := by
  rw [atSection] at h
  by_cases hwanted : t.value.name ∈ wantedSections
  · rw [if_pos hwanted] at h
    obtain ⟨_, _, heq⟩ := List.mem_map.mp h
    cases heq
    exact hwanted
  · rw [if_neg hwanted] at h
    split at h
    · cases List.mem_singleton.mp h
    · cases h

/-- **The objections to sections**, node by node, and then those to what is missing. Repetitions of
a name that is not wanted are never among them. A wanted name is missing exactly if the scan has
nothing to remember it by. -/
theorem structureViolations_nodewise (l : SuffixList) :
    structureViolations l = l.sections.flatMap (atSection l) ++
      (atMissing l icannSection ++ atMissing l privateSection) ∧
    (∀ s f, .duplicateSection s f ∈ structureViolations l → s.value.name ∈ wantedSections) ∧
    missingSections l = wantedSections.filter fun name =>
      (sectionUniqueness.find? (sectionUniqueness.representatives l.sections) name).isNone := by
  have hwalk : structureViolations l = l.sections.flatMap (atSection l) ++
      (atMissing l icannSection ++ atMissing l privateSection) := by
    rw [structureViolations, map_missingSections,
      sectionUniqueness.scan_eq_map l.increasing_sections, List.flatMap_map]
    simp only [sectionViolations_rival?]
  refine ⟨hwalk, ?_, ?_⟩
  · intro s f h
    rw [hwalk, List.mem_append, List.mem_append] at h
    rcases h with h | h | h
    · obtain ⟨t, _, h⟩ := List.mem_flatMap.mp h
      exact wanted_of_duplicateSection h
    · simp [atMissing] at h
    · simp [atMissing] at h
  · apply List.filter_congr
    intro name hname
    rw [Bool.eq_iff_iff, find?_representatives_isNone_iff hname]
    simp

/-! ## Suffixes and wildcards -/

/-- What is reported at an exception of a wildcard. -/
def atException (l : SuffixList) (w : Located Wildcard) (label : String) : List Violation :=
  match w.value.domain.child label with
  | .error e => if w.value.changed then [.badException w label e] else []
  | .ok name =>
    match suffixUniqueness.standing (suffixUniqueness.namesakes l.suffixes name) with
    | none => []
    | some s => if w.value.changed || s.value.changed then [.excludedSuffix s w] else []

theorem exceptionViolation?_toList (l : SuffixList) (w : Located Wildcard) (label : String) :
    (exceptionViolation? (suffixUniqueness.representatives l.suffixes) w label).toList =
      atException l w label := by
  rw [exceptionViolation?, atException]
  cases w.value.domain.child label with
  | error e =>
    dsimp only
    split <;> rfl
  | ok name =>
    dsimp only
    rw [suffixUniqueness.find?_representatives, suffixUniqueness.peers_eq_namesakes fun _ _ _ => rfl]
    cases suffixUniqueness.standing (suffixUniqueness.namesakes l.suffixes name) with
    | none => rfl
    | some s =>
      dsimp only
      split <;> rfl

/-- **The objections to suffixes and wildcards**, node by node. -/
theorem ruleViolations_nodewise (l : SuffixList) :
    ruleViolations l =
      (l.suffixes.flatMap fun s =>
        (suffixUniqueness.repeated? l.suffixes s).toList.map
          (.duplicateSuffix s.value.domain.text s)) ++
      l.wildcards.flatMap fun w =>
        (wildcardUniqueness.repeated? l.wildcards w).toList.map
            (.duplicateWildcard ("*." ++ w.value.domain.text) w) ++
          w.value.exceptions.flatMap (atException l w) := by
  rw [ruleViolations, suffixUniqueness.scan_eq_map_repeated? l.increasing_suffixes fun _ => rfl,
    wildcardUniqueness.scan_eq_map_repeated? l.increasing_wildcards fun _ => rfl,
    List.flatMap_map, List.flatMap_map]
  congr 1
  apply List.flatMap_congr
  intro w _
  rw [wildcardViolations, Wildcard.display, List.filterMap_eq_flatMap_toList]
  simp only [exceptionViolation?_toList]

end Offline

end PublicSuffix
