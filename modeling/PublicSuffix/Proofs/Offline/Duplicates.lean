import PublicSuffix.Proofs.Offline.Reports

/-!
# Which repetitions are reported

`validate_pairs` says of all pairs of suffixes, and of all pairs of wildcards, how often a report
names them: once if the earlier node is changed or the later one is and the earlier one stands for
its domain when the scan is at the later one, and never otherwise. With two nodes of a domain one
changed node is enough. With three it is not (`countP_three_eq_zero`), but a changed node that is
not the only one of its domain is always named.

A report names a pair as often as the scan has it (`count_duplicateSuffix`,
`count_duplicateWildcard`), and a scan has each block once. The name that is reported is always that
of the rule as it is written (`name_of_duplicateSuffix`, `name_of_duplicateWildcard`).
-/

namespace PublicSuffix.Offline

/-- How often a report `vs` names the pairs of `xs`, where `pair x y` holds `y` against `x`. -/
structure NamesPairs {κ α : Type} [DecidableEq κ] (u : Uniqueness κ α)
    (pair : Located α → Located α → Violation) (xs : List (Located α)) (vs : List Violation) :
    Prop where
  once : ∀ x ∈ xs, ∀ y, u.Stands (u.earlier xs x) y →
    u.changed x.value = true ∨ u.changed y.value = true →
      vs.countP (fun v => v = pair x y ∨ v = pair y x) = 1
  never : ∀ x ∈ xs, ∀ y ∈ xs, y.index < x.index → ¬(u.Stands (u.earlier xs x) y ∧
    (u.changed x.value = true ∨ u.changed y.value = true)) →
      vs.countP (fun v => v = pair x y ∨ v = pair y x) = 0
  /-- Where two nodes are the only ones with their key, it is enough that one is changed. -/
  two : ∀ x ∈ xs, ∀ y ∈ xs, y.index < x.index → u.key y.value = u.key x.value →
    (∀ z ∈ xs, u.key z.value = u.key x.value → z = x ∨ z = y) →
      u.changed x.value = true ∨ u.changed y.value = true →
        vs.countP (fun v => v = pair x y ∨ v = pair y x) = 1
  /-- A changed node that is not the only one with its key is named. -/
  changed : ∀ x ∈ xs, u.changed x.value = true → ∀ y ∈ xs, y.index ≠ x.index →
    u.key y.value = u.key x.value →
      ∃ z ∈ xs, u.key z.value = u.key x.value ∧ (pair x z ∈ vs ∨ pair z x ∈ vs)

/-! ## Reports that follow a scan -/

section Scan

variable {κ α : Type} [DecidableEq κ] [DecidableEq α] {u : Uniqueness κ α}
variable {pair : Located α → Located α → Violation} {xs : List (Located α)} {vs : List Violation}

variable (pair) in
theorem count_flatMap_pairs {x y : Located α}
    {g : Located α × Option (Located α) → List Violation}
    (hpair : ∀ z w, pair z w = pair x y → z = x ∧ w = y)
    (hg : ∀ p, (g p).count (pair x y) = (p.2.toList.map (pair p.1)).count (pair x y))
    (ps : List (Located α × Option (Located α))) :
    (ps.flatMap g).count (pair x y) = ps.count (x, some y) := by
  induction ps with
  | nil => rfl
  | cons p ps ih =>
    have hp : (g p).count (pair x y) = if p = (x, some y) then 1 else 0 := by
      rw [hg]
      obtain ⟨z, _ | w⟩ := p
      · simp
      · have hiff : pair z w = pair x y ↔ z = x ∧ w = y :=
          ⟨hpair z w, fun h => by rw [h.1, h.2]⟩
        simp [List.count_singleton, hiff]
    rw [List.flatMap_cons, List.count_append, hp, ih, List.count_cons, Nat.add_comm]
    simp only [beq_iff_eq]

/-- Of a pair, only the later node is held against the earlier one. -/
theorem countP_pair (h : Increasing xs)
    (hcount : ∀ x y, vs.count (pair x y) = (u.scan xs).count (x, some y)) {x y : Located α}
    (hlt : y.index < x.index) :
    vs.countP (fun v => v = pair x y ∨ v = pair y x) = (u.scan xs).count (x, some y) := by
  have hnot : pair y x ∉ vs := by
    rw [← List.count_eq_zero, hcount, List.count_eq_zero, u.mem_scan_iff h]
    rintro ⟨-, -, hstands, -⟩
    exact Nat.lt_asymm hlt (u.mem_earlier.mp hstands.mem).2.1
  rw [← hcount, List.count]
  refine List.countP_congr fun v hv => ?_
  have hne : v ≠ pair y x := fun heq => hnot (heq ▸ hv)
  simp [hne]

theorem namesPairs_of_count (h : Increasing xs) (he : ∀ a, u.eligible a = true)
    (hcount : ∀ x y, vs.count (pair x y) = (u.scan xs).count (x, some y)) :
    NamesPairs u pair xs vs := by
  have hmem : ∀ {x y}, (x, some y) ∈ u.scan xs → pair x y ∈ vs := fun hxy => by
    rw [← List.count_pos_iff, hcount]
    exact List.count_pos_iff.mpr hxy
  have honce : ∀ x ∈ xs, ∀ y, u.Stands (u.earlier xs x) y →
      u.changed x.value = true ∨ u.changed y.value = true →
        vs.countP (fun v => v = pair x y ∨ v = pair y x) = 1 := by
    intro x hx y hstands hchanged
    rw [countP_pair h hcount (u.mem_earlier.mp hstands.mem).2.1]
    exact List.count_eq_one_of_mem (u.nodup_scan h)
      ((u.mem_scan_iff h).mpr ⟨hx, he _, hstands, hchanged⟩)
  refine ⟨honce, ?_, ?_, ?_⟩
  · intro x _ y _ hlt hnot
    rw [countP_pair h hcount hlt, List.count_eq_zero, u.mem_scan_iff h]
    exact fun hxy => hnot hxy.2.2
  · intro x hx y hy hlt hkey honly hchanged
    have hmem : y ∈ u.earlier xs x := u.mem_earlier.mpr ⟨hy, hlt, he _, hkey⟩
    refine honce x hx y (u.stands_of_forall_eq hmem ?_) hchanged
    intro z hz
    obtain ⟨hz, hzlt, -, hzkey⟩ := u.mem_earlier.mp hz
    rcases honly z hz hzkey with rfl | rfl
    · exact absurd hzlt (Nat.lt_irrefl _)
    · rfl
  · intro x hx hchanged y hy hne hkey
    obtain ⟨z, hz, hzkey, hxz⟩ :=
      u.exists_pair_of_changed h hx hy (he _) (he _) hne hkey hchanged
    exact ⟨z, hz, hzkey, hxz.imp hmem hmem⟩

end Scan

/-! ## The report of a validation -/

variable {policy : ContactPolicy} {l : SuffixList}

theorem count_validate {v : Violation} (hcontacts : v ∉ contactViolations policy l)
    (hstructure : v ∉ structureViolations l) :
    (validate policy l).count v = (ruleViolations l).count v := by
  rw [validate, List.count_append, List.count_append, List.count_eq_zero.mpr hcontacts,
    List.count_eq_zero.mpr hstructure, Nat.zero_add]

theorem count_duplicateSuffix (x y : Located Suffix) :
    (validate policy l).count (.duplicateSuffix x.value.domain.text x y) =
      (suffixUniqueness.scan l.suffixes).count (x, some y) := by
  have hwildcards : .duplicateSuffix x.value.domain.text x y ∉
      (wildcardUniqueness.scan l.wildcards).flatMap
        (wildcardViolations (suffixUniqueness.representatives l.suffixes)) := by
    simp [mem_wildcardViolations, exceptionViolation?_eq_some_iff]
  rw [count_validate (by simp [mem_contactViolations]) (by simp [mem_structureViolations]),
    ruleViolations, List.count_append, List.count_eq_zero.mpr hwildcards, Nat.add_zero]
  exact count_flatMap_pairs (fun z => .duplicateSuffix z.value.domain.text z)
    (fun _ _ h => (Violation.duplicateSuffix.inj h).2) (fun _ => rfl) _

theorem count_duplicateWildcard (x y : Located Wildcard) :
    (validate policy l).count (.duplicateWildcard x.value.display x y) =
      (wildcardUniqueness.scan l.wildcards).count (x, some y) := by
  have hsuffixes : Violation.duplicateWildcard x.value.display x y ∉
      (suffixUniqueness.scan l.suffixes).flatMap
        fun p => p.2.toList.map (Violation.duplicateSuffix p.1.value.domain.text p.1) := by
    simp
  rw [count_validate (by simp [mem_contactViolations]) (by simp [mem_structureViolations]),
    ruleViolations, List.count_append, List.count_eq_zero.mpr hsuffixes, Nat.zero_add]
  refine count_flatMap_pairs (fun z => .duplicateWildcard z.value.display z)
    (fun _ _ h => (Violation.duplicateWildcard.inj h).2) (fun p => ?_) _
  -- the objections to exceptions name no pair
  have hexceptions : Violation.duplicateWildcard x.value.display x y ∉
      p.1.value.exceptions.filterMap
        (exceptionViolation? (suffixUniqueness.representatives l.suffixes) p.1) := by
    simp [exceptionViolation?_eq_some_iff]
  rw [wildcardViolations, List.count_append, List.count_eq_zero.mpr hexceptions, Nat.add_zero]

theorem name_of_duplicateSuffix {name : String} {x y : Located Suffix}
    (h : .duplicateSuffix name x y ∈ validate policy l) : name = x.value.domain.text := by
  have hpair : (x, some y) ∈ suffixUniqueness.scan l.suffixes ∧
      name = x.value.domain.text := by
    simpa [mem_validate, mem_contactViolations, mem_structureViolations, mem_ruleViolations] using h
  exact hpair.2

theorem name_of_duplicateWildcard {name : String} {x y : Located Wildcard}
    (h : .duplicateWildcard name x y ∈ validate policy l) : name = x.value.display := by
  have hpair : (x, some y) ∈ wildcardUniqueness.scan l.wildcards ∧
      name = x.value.display := by
    simpa [mem_validate, mem_contactViolations, mem_structureViolations, mem_ruleViolations] using h
  exact hpair.2

/-- **How often a report names two suffixes or two wildcards**, and by which name: that of the rule
as it is written. -/
theorem validate_pairs (policy : ContactPolicy) (l : SuffixList) :
    (NamesPairs suffixUniqueness (fun x => .duplicateSuffix x.value.domain.text x) l.suffixes
        (validate policy l) ∧
      ∀ name x y, .duplicateSuffix name x y ∈ validate policy l → name = x.value.domain.text) ∧
    NamesPairs wildcardUniqueness (fun x => .duplicateWildcard x.value.display x) l.wildcards
        (validate policy l) ∧
      ∀ name x y, .duplicateWildcard name x y ∈ validate policy l → name = x.value.display :=
  ⟨⟨namesPairs_of_count l.increasing_suffixes (fun _ => rfl) count_duplicateSuffix,
      fun _ _ _ => name_of_duplicateSuffix⟩,
    namesPairs_of_count l.increasing_wildcards (fun _ => rfl) count_duplicateWildcard,
      fun _ _ _ => name_of_duplicateWildcard⟩

def shop : Name where
  labels := [⟨"shop", by decide, by decide, List.all_eq_true.mp (by decide)⟩]
  nonempty := by decide
  size_le := by decide

/-- A domain three times, changed in the middle. -/
def three : SuffixList where
  blocks := [.entry (.ofSuffix { domain := shop }),
    .entry (.ofSuffix { domain := shop, changed := true }), .entry (.ofSuffix { domain := shop })]

def copyOfShop (index : Nat) (changed : Bool) : Located Suffix :=
  ⟨index, { domain := shop, changed := changed }⟩

/-- The first two suffixes of `three` are named together. -/
theorem once_at_three : copyOfShop 2 true ∈ three.suffixes ∧
    suffixUniqueness.Stands (suffixUniqueness.earlier three.suffixes (copyOfShop 2 true))
      (copyOfShop 1 false) ∧
    (validate .everyone three).countP (fun v =>
      v = .duplicateSuffix "shop" (copyOfShop 2 true) (copyOfShop 1 false) ∨
        v = .duplicateSuffix "shop" (copyOfShop 1 false) (copyOfShop 2 true)) = 1 := by
  have hmem : copyOfShop 2 true ∈ three.suffixes := by decide
  have hstands : suffixUniqueness.Stands
      (suffixUniqueness.earlier three.suffixes (copyOfShop 2 true)) (copyOfShop 1 false) := by
    rw [← suffixUniqueness.standing_eq_some_iff
      (suffixUniqueness.increasing_earlier three.increasing_suffixes _)]
    decide
  exact ⟨hmem, hstands, (validate_pairs .everyone three).1.1.once _ hmem _ hstands (.inl rfl)⟩

/-- The last two are not, though one of them is changed. -/
theorem countP_three_eq_zero : ∃ x ∈ three.suffixes, ∃ y ∈ three.suffixes, x.index ≠ y.index ∧
    x.value.domain = y.value.domain ∧ (x.value.changed = true ∨ y.value.changed = true) ∧
    ∀ name other, (validate .everyone three).countP
      (fun v => v = .duplicateSuffix name x y ∨ v = .duplicateSuffix other y x) = 0 := by
  have hreport : validate .everyone three = [.missingSection icannSection,
      .missingSection privateSection,
      .duplicateSuffix "shop" (copyOfShop 2 true) (copyOfShop 1 false)] := by
    decide
  refine ⟨copyOfShop 3 false, by decide, copyOfShop 2 true, by decide, by decide, rfl, .inr rfl,
    fun name other => ?_⟩
  rw [hreport]
  simp [copyOfShop]

end PublicSuffix.Offline
