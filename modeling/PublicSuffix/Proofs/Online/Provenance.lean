import PublicSuffix.Proofs.Document.Preorder
import PublicSuffix.Proofs.Online.Cancellation
import PublicSuffix.Proofs.Provenance.Decision

/-!
# What a clean report proves

`verify_clean_iff`: a verification that is not cancelled and finds nothing is proof that the records
of every suffix of a changed private entity can be looked up, and that those of the changed suffixes
name the expected change; and there is no other way to a clean report. What the records have to be
like is said by `Vouched`, and how they are looked up does not matter (`violations_eq_sequential`).
-/

namespace PublicSuffix.Online

open Schedule (Before)

variable {l : SuffixList} {e : Located Block}

/-- A changed entity at or below some private section. -/
def IsPrivateEntity (l : SuffixList) (e : Located Block) : Prop :=
  (∃ p ∈ l.located, (∃ s, p.value.section? = some s ∧ s.name = "PRIVATE DOMAINS") ∧ e ∈ p.below) ∧
    ∃ x, e.value.entity? = some x ∧ x.changed = true

theorem isChangedEntity_iff {b : Block} :
    isChangedEntity b = true ↔ ∃ x, b.entity? = some x ∧ x.changed = true := by
  unfold isChangedEntity
  cases b.entity? with
  | none => simp
  | some x => simp

theorem mem_entities : e ∈ entities l ↔ IsPrivateEntity l e := by
  simp only [entities, List.mem_filter, List.mem_flatMap, isChangedEntity_iff, Block.opensSection_iff,
    IsPrivateEntity, privateSection, and_assoc]

/-! ## Single entities -/

variable {resolver : Resolver} {timeout : Nat} {n : ChangeId}

/-- All that an entity has is vouched for. -/
structure Proven (resolver : Resolver) (timeout : Nat) (n : ChangeId) (e : Located Block) :
    Prop where
  /-- Wildcards cannot be. -/
  wildcards : ∀ b ∈ e.below, b.value.wildcard? = none
  suffixes : ∀ b ∈ e.below, ∀ s, b.value.suffix? = some s → Vouched resolver timeout n s

theorem checksOf_clean_iff : (∀ c ∈ checksOf e, objection? resolver timeout (some n) c = none) ↔
    Proven resolver timeout n e := by
  have hsuffixes : (∀ s ∈ select Block.suffix? e.below,
      objection? resolver timeout (some n) (.records s) = none) ↔
      ∀ b ∈ e.below, ∀ s, b.value.suffix? = some s → Vouched resolver timeout n s := by
    simp only [objection?, verdict_lookupChange_eq_none_iff]
    exact forall_mem_select
  have hwildcards : (∀ w ∈ select Block.wildcard? e.below,
      objection? resolver timeout (some n) (.wildcard w) = none) ↔
      ∀ b ∈ e.below, b.value.wildcard? = none := by
    -- every wildcard is objected to, so there must not be one
    rw [forall_mem_select]
    refine forall₂_congr fun b _ => ?_
    rw [Option.eq_none_iff_forall_ne_some]
    simp [objection?]
  rw [checksOf, List.forall_mem_append, List.forall_mem_map, List.forall_mem_map, hsuffixes,
    hwildcards]
  exact ⟨fun h => ⟨h.2, h.1⟩, fun h => ⟨h.suffixes, h.wildcards⟩⟩

theorem sequential_eq_nil_iff : sequential resolver timeout (some n) l = [] ↔
    ∀ e, IsPrivateEntity l e → Proven resolver timeout n e := by
  simp only [sequential, List.filterMap_eq_nil_iff, List.mem_flatMap, ← mem_entities,
    ← checksOf_clean_iff]
  constructor
  · intro h e he c hc
    exact h c ⟨e, he, hc⟩
  · rintro h c ⟨e, he, hc⟩
    exact h e he c hc

/-! ## Whole lists -/

theorem not_cancelled_iff (resolver : Resolver) (settings : Settings) (expected : Option ChangeId)
    (deadline : Option Nat) (l : SuffixList) :
    (verify resolver settings expected deadline l).cancelled = false ↔
      Before (verify resolver settings expected none l).elapsed deadline := by
  rw [← Bool.not_eq_true, cancelled_deadline]
  constructor
  · intro h d hd
    exact Nat.lt_of_not_le fun hle => h ⟨d, hd, hle⟩
  · rintro h ⟨d, hd, hle⟩
    exact Nat.not_lt.mpr hle (h d hd)

/-- **A clean report is proof of provenance**, and what is proven is reported so. -/
theorem verify_clean_iff (resolver : Resolver) (settings : Settings) (n : ChangeId)
    (deadline : Option Nat) (l : SuffixList) :
    (verify resolver settings (some n) deadline l).cancelled = false ∧
        (verify resolver settings (some n) deadline l).violations = [] ↔
      Before (verify resolver settings (some n) none l).elapsed deadline ∧
        ∀ e, IsPrivateEntity l e → Proven resolver settings.timeout n e := by
  rw [← not_cancelled_iff]
  refine and_congr_right fun hfree => ?_
  rw [violations_eq_sequential hfree, sequential_eq_nil_iff]

end PublicSuffix.Online
