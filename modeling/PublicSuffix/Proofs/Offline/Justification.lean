import PublicSuffix.Proofs.Document.Nesting
import PublicSuffix.Proofs.Offline.Duplicates

/-!
# What an objection stands on

`validate_justified`: every objection that needs no network is `Justified`, which says of the nodes
that it names what it holds against them, and unless something is missing it names a changed node.
A list without changes is therefore reported for missing sections only.

The flags enter at seven places, one for each kind of objection to blocks. The two nodes of a
repetition come out of a scan; that they are two nodes of one kind, the first of them earlier, is
read off what the scan has met before (`rival_of_mem_scan`).
-/

namespace PublicSuffix.Offline

/-- `later` repeats the key of `first`, and one of the two is changed. -/
structure Rival {κ α : Type} (key : α → κ) (changed : α → Bool) (xs : List (Located α))
    (later first : Located α) : Prop where
  later_mem : later ∈ xs
  first_mem : first ∈ xs
  index_lt : first.index < later.index
  key_eq : key later.value = key first.value
  changed : changed later.value = true ∨ changed first.value = true

/-- What an objection holds against the nodes of a list. -/
inductive Justified (policy : ContactPolicy) (l : SuffixList) : Violation → Prop where
  | unnamedEntity {b : Located Block} {e : Located Entity} (hb : IsPrivateSection l b)
    (he : e ∈ select Block.entity? b.below) (hchanged : e.value.changed = true)
    (hname : e.value.info.name = "") : Justified policy l (.unnamedEntity e)
  | missingContact {b : Located Block} {e : Located Entity} (hb : IsPrivateSection l b)
    (he : e ∈ select Block.entity? b.below) (hchanged : e.value.changed = true)
    (hmaintainers : e.value.info.maintainers = []) (hpolicy : policy e.value.info.name = false) :
    Justified policy l (.missingContact e)
  | unknownSection {s : Located Section} (hs : s ∈ l.sections) (hchanged : s.value.changed = true)
    (hname : s.value.name ∉ wantedSections) : Justified policy l (.unknownSection s)
  | duplicateSection {later first : Located Section}
    (h : Rival Section.name Section.changed l.sections later first) :
    Justified policy l (.duplicateSection later first)
  | missingSection {name : String} (hname : name ∈ wantedSections)
    (hmissing : ∀ s ∈ l.sections, s.value.name ≠ name) : Justified policy l (.missingSection name)
  | duplicateSuffix {name : String} {later first : Located Suffix}
    (h : Rival Suffix.domain Suffix.changed l.suffixes later first)
    (hname : name = first.value.domain.text) :
    Justified policy l (.duplicateSuffix name later first)
  | duplicateWildcard {name : String} {later first : Located Wildcard}
    (h : Rival Wildcard.domain Wildcard.changed l.wildcards later first)
    (hname : name = "*." ++ first.value.domain.text) :
    Justified policy l (.duplicateWildcard name later first)
  | excludedSuffix {s : Located Suffix} {w : Located Wildcard} {label : String}
    (hs : s ∈ l.suffixes) (hw : w ∈ l.wildcards) (hlabel : label ∈ w.value.exceptions)
    (hchild : w.value.domain.child label = .ok s.value.domain)
    (hchanged : w.value.changed = true ∨ s.value.changed = true) :
    Justified policy l (.excludedSuffix s w)
  | badException {w : Located Wildcard} {label : String} {error : NameError}
    (hw : w ∈ l.wildcards) (hchanged : w.value.changed = true)
    (hlabel : label ∈ w.value.exceptions) (hchild : w.value.domain.child label = .error error) :
    Justified policy l (.badException w label error)

variable {policy : ContactPolicy} {l : SuffixList} {v : Violation}

/-! ## The three groups of rules -/

theorem justified_of_mem_contactViolations (h : v ∈ contactViolations policy l) :
    Justified policy l v := by
  obtain ⟨b, hb, e, he, hchanged, ⟨hname, rfl⟩ | ⟨hmaintainers, hpolicy, rfl⟩⟩ :=
    mem_contactViolations.mp h
  · exact .unnamedEntity hb he hchanged hname
  · exact .missingContact hb he hchanged hmaintainers hpolicy

theorem rival_of_mem_scan {κ α : Type} [DecidableEq κ] (u : Uniqueness κ α)
    {xs : List (Located α)} (hxs : Increasing xs) {x y : Located α}
    (h : (x, some y) ∈ u.scan xs) : Rival u.key u.changed xs x y := by
  obtain ⟨hx, -, hstands, hchanged⟩ := (u.mem_scan_iff hxs).mp h
  obtain ⟨hy, hlt, -, hkey⟩ := u.mem_earlier.mp hstands.mem
  exact ⟨hx, hy, hlt, hkey.symm, hchanged⟩

theorem justified_of_mem_structureViolations (h : v ∈ structureViolations l) :
    Justified policy l v := by
  rcases mem_structureViolations.mp h with ⟨s, hs, hunknown, rfl⟩ | ⟨x, y, hxy, rfl⟩ |
    ⟨name, hmissing, rfl⟩
  · obtain ⟨hchanged, hname⟩ := isUnknown_iff.mp hunknown
    exact .unknownSection hs hchanged hname
  · exact .duplicateSection (rival_of_mem_scan sectionUniqueness l.increasing_sections hxy)
  · obtain ⟨hname, hnone⟩ := mem_missingSections.mp hmissing
    exact .missingSection hname hnone

theorem justified_of_mem_ruleViolations (h : v ∈ ruleViolations l) : Justified policy l v := by
  rcases mem_ruleViolations.mp h with ⟨x, y, hxy, rfl⟩ | ⟨x, y, hxy, rfl⟩ |
    ⟨w, hw, label, hlabel, ⟨error, hchild, hchanged, rfl⟩ | ⟨s, hchild, hs, hchanged, rfl⟩⟩
  · have hrival := rival_of_mem_scan suffixUniqueness l.increasing_suffixes hxy
    exact .duplicateSuffix hrival (congrArg Name.text hrival.key_eq)
  · have hrival := rival_of_mem_scan wildcardUniqueness l.increasing_wildcards hxy
    exact .duplicateWildcard hrival (congrArg (fun n : Name => "*." ++ n.text) hrival.key_eq)
  · exact .badException hw hchanged hlabel hchild
  · exact .excludedSuffix (suffixUniqueness.mem_peers.mp hs.mem).1 hw hlabel hchild hchanged

/-! ## Changed nodes -/

/-- Some node of the list that the objection names is changed. -/
def Blames (l : SuffixList) (v : Violation) : Prop :=
  ∃ b ∈ l.located, b.index ∈ v.nodes ∧ b.value.changed = true

theorem blames_of_mem {α : Type} {f : Block → Option α} {changed : α → Bool}
    (hf : ∀ {a b}, f b = some a → b.changed = changed a) {x : Located α}
    (hx : x ∈ select f l.located) (hchanged : changed x.value = true) (hv : x.index ∈ v.nodes) :
    Blames l v := by
  obtain ⟨b, hb, hbx⟩ := mem_select.mp hx
  exact ⟨_, hb, hv, (hf hbx).trans hchanged⟩

theorem blames_of_mem_below {b : Located Block} {e : Located Entity} (hb : IsPrivateSection l b)
    (he : e ∈ select Block.entity? b.below) (hchanged : e.value.changed = true)
    (hv : e.index ∈ v.nodes) : Blames l v := by
  obtain ⟨c, hc, hce⟩ := mem_select.mp he
  have hmem : e ∈ select Block.entity? l.located :=
    mem_select.mpr ⟨c, SuffixList.mem_of_mem_below hb.1 hc, hce⟩
  exact blames_of_mem Block.changed_of_entity? hmem hchanged hv

theorem Rival.blames {κ α : Type} {key : α → κ} {f : Block → Option α} {changed : α → Bool}
    (hf : ∀ {a b}, f b = some a → b.changed = changed a) {later first : Located α}
    (h : Rival key changed (select f l.located) later first)
    (hv : v.nodes = [later.index, first.index]) : Blames l v := by
  rcases h.changed with hchanged | hchanged
  · exact blames_of_mem hf h.later_mem hchanged (by simp [hv])
  · exact blames_of_mem hf h.first_mem hchanged (by simp [hv])

theorem Justified.blames (h : Justified policy l v) :
    (∃ name, v = .missingSection name) ∨ Blames l v := by
  cases h with
  | unnamedEntity hb he hchanged =>
    exact .inr (blames_of_mem_below hb he hchanged List.mem_cons_self)
  | missingContact hb he hchanged =>
    exact .inr (blames_of_mem_below hb he hchanged List.mem_cons_self)
  | unknownSection hs hchanged =>
    exact .inr (blames_of_mem Block.changed_of_section? hs hchanged List.mem_cons_self)
  | duplicateSection h => exact .inr (h.blames Block.changed_of_section? rfl)
  | missingSection => exact .inl ⟨_, rfl⟩
  | duplicateSuffix h => exact .inr (h.blames Block.changed_of_suffix? rfl)
  | duplicateWildcard h => exact .inr (h.blames Block.changed_of_wildcard? rfl)
  | excludedSuffix hs hw _ _ hchanged =>
    rcases hchanged with hchanged | hchanged
    · exact .inr (blames_of_mem Block.changed_of_wildcard? hw hchanged (by simp [Violation.nodes]))
    · exact .inr (blames_of_mem Block.changed_of_suffix? hs hchanged (by simp [Violation.nodes]))
  | badException hw hchanged =>
    exact .inr (blames_of_mem Block.changed_of_wildcard? hw hchanged List.mem_cons_self)

/-- **Every objection is justified**, and it blames a changed node unless something is missing. So
a list without changes is reported for missing sections only. -/
theorem validate_justified (policy : ContactPolicy) (l : SuffixList) :
    (∀ v ∈ validate policy l,
      Justified policy l v ∧ ((∃ name, v = .missingSection name) ∨ Blames l v)) ∧
    ((∀ b ∈ l.located, b.value.changed = false) →
      ∀ v ∈ validate policy l, ∃ name, v = .missingSection name) := by
  have hjustified : ∀ v ∈ validate policy l, Justified policy l v := by
    intro v hv
    rcases mem_validate.mp hv with hv | hv | hv
    · exact justified_of_mem_contactViolations hv
    · exact justified_of_mem_structureViolations hv
    · exact justified_of_mem_ruleViolations hv
  refine ⟨fun v hv => ⟨hjustified v hv, (hjustified v hv).blames⟩, fun hold v hv => ?_⟩
  rcases (hjustified v hv).blames with hmissing | ⟨b, hb, -, hchanged⟩
  · exact hmissing
  · rw [hold b hb] at hchanged
    cases hchanged

/-- The changed suffix of `three` is blamed for repeating the unchanged one before it. -/
theorem justified_at_three :
    .duplicateSuffix "shop" (copyOfShop 2 true) (copyOfShop 1 false) ∈ validate .everyone three ∧
    Justified .everyone three (.duplicateSuffix "shop" (copyOfShop 2 true) (copyOfShop 1 false)) ∧
    Blames three (.duplicateSuffix "shop" (copyOfShop 2 true) (copyOfShop 1 false)) := by
  have hmem : .duplicateSuffix "shop" (copyOfShop 2 true) (copyOfShop 1 false) ∈
      validate .everyone three := by decide
  obtain ⟨hjustified, ⟨name, hname⟩ | hblames⟩ := (validate_justified .everyone three).1 _ hmem
  · cases hname
  · exact ⟨hmem, hjustified, hblames⟩

end PublicSuffix.Offline
