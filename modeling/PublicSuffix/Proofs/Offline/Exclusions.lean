import PublicSuffix.Proofs.Domain.Names
import PublicSuffix.Proofs.Offline.Duplicates

/-!
# Which excluded suffixes are reported

An exception of a wildcard is compared with the one suffix that stands for the name that it gives.
`exists_excludedSuffix_iff` says what comes of it: the wildcard is reported exactly if it is changed
or the first suffix of that name is. A later suffix may be changed without that
(`excludedSuffix_notMem_excluding`), but then it is reported for repeating an earlier one.
-/

namespace PublicSuffix.Offline

variable {policy : ContactPolicy} {l : SuffixList} {s t r f : Located Suffix} {w : Located Wildcard}
variable {name : Name} {label : String}

/-- The first suffix of a name. -/
def IsFirstOf (l : SuffixList) (name : Name) (f : Located Suffix) : Prop :=
  f ∈ l.suffixes ∧ f.value.domain = name ∧
    ∀ z ∈ l.suffixes, z.value.domain = name → f.index ≤ z.index

theorem mem_peers_suffixes : s ∈ suffixUniqueness.peers l.suffixes name ↔
    s ∈ l.suffixes ∧ s.value.domain = name := by
  rw [suffixUniqueness.mem_peers]
  exact and_congr_right fun _ => and_iff_right rfl

/-- The wildcard is held against the suffix that stands for its name. -/
theorem excludedSuffix_mem_validate_iff : .excludedSuffix t w ∈ validate policy l ↔
    (w ∈ l.wildcards ∧ ∃ label ∈ w.value.exceptions,
      w.value.domain.child label = .ok t.value.domain) ∧
    suffixUniqueness.Stands (suffixUniqueness.peers l.suffixes t.value.domain) t ∧
    (w.value.changed = true ∨ t.value.changed = true) := by
  have hcontacts : .excludedSuffix t w ∉ contactViolations policy l := by
    simp [mem_contactViolations]
  have hstructure : .excludedSuffix t w ∉ structureViolations l := by
    simp [mem_structureViolations]
  simp only [mem_validate, hcontacts, hstructure, false_or, mem_ruleViolations, reduceCtorEq,
    and_false, exists_false, Violation.excludedSuffix.injEq]
  constructor
  · rintro ⟨w, hw, label, hlabel, s, hchild, hs, hchanged, rfl, rfl⟩
    exact ⟨⟨hw, label, hlabel, hchild⟩, hs, hchanged⟩
  · rintro ⟨⟨hw, label, hlabel, hchild⟩, ht, hchanged⟩
    exact ⟨w, hw, label, hlabel, t, hchild, ht, hchanged, rfl, rfl⟩

theorem duplicateSuffix_mem_validate_iff :
    .duplicateSuffix s.value.domain.text s r ∈ validate policy l ↔
      (s, some r) ∈ suffixUniqueness.scan l.suffixes := by
  rw [← List.count_pos_iff, count_duplicateSuffix, List.count_pos_iff]

theorem exists_stands_changed_suffix_iff :
    (∃ t, suffixUniqueness.Stands (suffixUniqueness.peers l.suffixes name) t ∧
      t.value.changed = true) ↔ ∃ f, IsFirstOf l name f ∧ f.value.changed = true := by
  refine suffixUniqueness.exists_stands_changed_iff.trans (exists_congr fun f => ?_)
  simp only [mem_peers_suffixes, IsFirstOf, and_imp]
  tauto

/-- A changed suffix is the first of its name, or it is reported for repeating another one. -/
theorem isFirstOf_or_exists_duplicate (policy : ContactPolicy) (hs : s ∈ l.suffixes)
    (hchanged : s.value.changed = true) :
    IsFirstOf l s.value.domain s ∨
      ∃ r ∈ l.suffixes, r.value.domain = s.value.domain ∧
        .duplicateSuffix s.value.domain.text s r ∈ validate policy l := by
  by_cases hearlier : suffixUniqueness.earlier l.suffixes s = []
  · refine .inl ⟨hs, rfl, fun z hz hdomain => Nat.le_of_not_lt fun hlt => ?_⟩
    have hmem : z ∈ suffixUniqueness.earlier l.suffixes s :=
      suffixUniqueness.mem_earlier.mpr ⟨hz, hlt, rfl, hdomain⟩
    rw [hearlier] at hmem
    cases hmem
  · obtain ⟨r, hr⟩ := suffixUniqueness.exists_stands
      (suffixUniqueness.increasing_earlier l.increasing_suffixes s) hearlier
    obtain ⟨hmem, -, -, hdomain⟩ := suffixUniqueness.mem_earlier.mp hr.mem
    have hpair := (suffixUniqueness.mem_scan_iff l.increasing_suffixes).mpr
      ⟨hs, rfl, hr, .inl hchanged⟩
    exact .inr ⟨r, hmem, hdomain, duplicateSuffix_mem_validate_iff.mpr hpair⟩

/-- **When a wildcard is reported for an excluded suffix**: if and only if the wildcard is changed
or the first suffix of that name is. No changed suffix that is excluded goes unreported: if there is
no such report, it is reported for repeating another suffix. -/
theorem exists_excludedSuffix_iff (policy : ContactPolicy) (hs : s ∈ l.suffixes)
    (hw : w ∈ l.wildcards) (hlabel : label ∈ w.value.exceptions)
    (hchild : w.value.domain.child label = .ok s.value.domain) :
    ((∃ t ∈ l.suffixes, t.value.domain = s.value.domain ∧ .excludedSuffix t w ∈ validate policy l) ↔
      w.value.changed = true ∨ ∃ f, IsFirstOf l s.value.domain f ∧ f.value.changed = true) ∧
    (s.value.changed = true →
      (∃ t ∈ l.suffixes, t.value.domain = s.value.domain ∧ .excludedSuffix t w ∈ validate policy l) ∨
      ∃ r ∈ l.suffixes, r.value.domain = s.value.domain ∧
        .duplicateSuffix s.value.domain.text s r ∈ validate policy l) := by
  -- whatever stands for the name of `s` is held against the wildcard
  have hreport : ∀ t, suffixUniqueness.Stands
      (suffixUniqueness.peers l.suffixes s.value.domain) t →
      w.value.changed = true ∨ t.value.changed = true → ∃ t ∈ l.suffixes,
        t.value.domain = s.value.domain ∧ .excludedSuffix t w ∈ validate policy l := by
    intro t ht hchanged
    obtain ⟨hmem, hdomain⟩ := mem_peers_suffixes.mp ht.mem
    rw [← hdomain] at ht hchild
    exact ⟨t, hmem, hdomain,
      excludedSuffix_mem_validate_iff.mpr ⟨⟨hw, label, hlabel, hchild⟩, ht, hchanged⟩⟩
  have hiff : (∃ t ∈ l.suffixes, t.value.domain = s.value.domain ∧
      .excludedSuffix t w ∈ validate policy l) ↔
        w.value.changed = true ∨ ∃ f, IsFirstOf l s.value.domain f ∧ f.value.changed = true := by
    rw [← exists_stands_changed_suffix_iff]
    constructor
    · rintro ⟨t, _, hdomain, ht⟩
      obtain ⟨_, hstands, hchanged⟩ := excludedSuffix_mem_validate_iff.mp ht
      rw [hdomain] at hstands
      exact hchanged.imp_right fun hchanged => ⟨t, hstands, hchanged⟩
    · rintro (hchanged | ⟨t, ht, hchanged⟩)
      · obtain ⟨t, ht⟩ := suffixUniqueness.exists_stands
          (suffixUniqueness.increasing_peers l.increasing_suffixes _)
          (List.ne_nil_of_mem (mem_peers_suffixes.mpr ⟨hs, rfl⟩))
        exact hreport t ht (.inl hchanged)
      · exact hreport t ht (.inr hchanged)
  refine ⟨hiff, fun hchanged => ?_⟩
  rcases isFirstOf_or_exists_duplicate policy hs hchanged with hfirst | hduplicate
  · exact .inl (hiff.mpr (.inr ⟨s, hfirst, hchanged⟩))
  · exact .inr hduplicate

def www : Label := ⟨"www", by decide, by decide, List.all_eq_true.mp (by decide)⟩

def wwwShop : Name where
  labels := www :: shop.labels
  nonempty := by decide
  size_le := by decide

theorem child_shop : shop.child "www" = .ok wwwShop :=
  (Name.child_text shop www).trans (Name.ofLabels_eq_ok_iff.mpr rfl)

/-- A suffix twice, with the given flags, and an unchanged wildcard that excludes it. -/
def excluding (first second : Bool) : SuffixList where
  blocks := [.entry (.ofSuffix { domain := wwwShop, changed := first }),
    .entry (.ofSuffix { domain := wwwShop, changed := second }),
    .entry (.ofWildcard { domain := shop, exceptions := ["www"] })]

def wildcardOfShop : Located Wildcard := ⟨3, { domain := shop, exceptions := ["www"] }⟩

/-- A changed first suffix is enough for the other one. -/
theorem exists_excludedSuffix_of_first :
    ⟨2, { domain := wwwShop }⟩ ∈ (excluding true false).suffixes ∧
    wildcardOfShop ∈ (excluding true false).wildcards ∧
    "www" ∈ wildcardOfShop.value.exceptions ∧
    wildcardOfShop.value.domain.child "www" = .ok wwwShop ∧
    ∃ t ∈ (excluding true false).suffixes, t.value.domain = wwwShop ∧
      .excludedSuffix t wildcardOfShop ∈ validate .everyone (excluding true false) := by
  have hs : (⟨2, { domain := wwwShop }⟩ : Located Suffix) ∈ (excluding true false).suffixes := by
    decide
  have hw : wildcardOfShop ∈ (excluding true false).wildcards := by decide
  have hlabel : "www" ∈ wildcardOfShop.value.exceptions := List.mem_cons_self
  have hfirst : IsFirstOf (excluding true false) wwwShop
      ⟨1, { domain := wwwShop, changed := true }⟩ := by
    unfold IsFirstOf
    decide
  exact ⟨hs, hw, hlabel, child_shop,
    (exists_excludedSuffix_iff .everyone hs hw hlabel child_shop).1.mpr (.inr ⟨_, hfirst, rfl⟩)⟩

/-- A changed second suffix is not. -/
theorem excludedSuffix_notMem_excluding :
    ∃ s ∈ (excluding false true).suffixes, ∃ w ∈ (excluding false true).wildcards,
      ∃ label ∈ w.value.exceptions, w.value.domain.child label = .ok s.value.domain ∧
        (s.value.changed = true ∨ w.value.changed = true) ∧
        ∀ t, .excludedSuffix t w ∉ validate .everyone (excluding false true) := by
  refine ⟨⟨2, { domain := wwwShop, changed := true }⟩, by decide, wildcardOfShop, by decide, "www",
    List.mem_cons_self, child_shop, .inl rfl, fun t ht => ?_⟩
  have hreport : validate .everyone (excluding false true) = [.missingSection icannSection,
      .missingSection privateSection,
      .duplicateSuffix "www.shop" ⟨2, { domain := wwwShop, changed := true }⟩
        ⟨1, { domain := wwwShop }⟩] := by
    decide +kernel
  rw [hreport] at ht
  simp at ht

end PublicSuffix.Offline
