import PublicSuffix.Online.Report
import PublicSuffix.Proofs.Ordered
import Mathlib.Data.List.Perm.Subperm

/-!
# What a run reports

The checks of a list are numbered, and each has an objection of its own, which a suffix would get
from a lookup by itself (`objection?`). `violations_eq` says that a run reports the objections of
the checks that it settles, in the order of their numbers: those to all wildcards, and those to the
suffixes whose lookups are over. Neither how the lookups overlapped nor in which order they ended
makes a difference, since the numbers are different and sorting by them has one result
(`inOrder_eq_of_perm`).
-/

namespace PublicSuffix.Online

variable {resolver : Resolver} {timeout : Nat} {l : SuffixList}

/-! ## Sorting by numbers -/

theorem pairwise_mergeSort_fst (found : List (Nat × Violation)) :
    (found.mergeSort fun a b => a.1 ≤ b.1).Pairwise fun a b => a.1 ≤ b.1 := by
  have h : (found.mergeSort fun a b => a.1 ≤ b.1).Pairwise
      fun a b => decide (a.1 ≤ b.1) = true := by
    refine List.pairwise_mergeSort (fun a b c hab hbc => ?_) (fun a b => ?_) found
    · simp only [decide_eq_true_eq] at hab hbc ⊢
      exact Nat.le_trans hab hbc
    · simp only [Bool.or_eq_true, decide_eq_true_eq]
      exact Nat.le_total a.1 b.1
  exact h.imp of_decide_eq_true

theorem inOrder_eq_of_perm {found sorted : List (Nat × Violation)} (hperm : found.Perm sorted)
    (hsorted : sorted.Pairwise fun a b => a.1 < b.1) : inOrder found = sorted.map (·.2) := by
  have hsort : (found.mergeSort fun a b => a.1 ≤ b.1).Perm sorted :=
    (List.mergeSort_perm _ _).trans hperm
  have heq : (found.mergeSort fun a b => a.1 ≤ b.1) = sorted := by
    refine List.Perm.eq_of_pairwise (fun a b ha hb hab hba => ?_) (pairwise_mergeSort_fst found)
      (hsorted.imp Nat.le_of_lt) hsort
    exact eq_of_pairwise_lt hsorted (hsort.mem_iff.mp ha) hb (Nat.le_antisymm hab hba)
  rw [inOrder, heq]

/-! ## Numbered checks -/

theorem pairwise_checks (l : SuffixList) : (checks l).Pairwise fun c d => c.2 < d.2 := by
  rw [← List.pairwise_map (f := Prod.snd) (R := (· < ·)), checks, List.zipIdx_map_snd]
  exact List.pairwise_lt_range'

theorem map_fst_checks (l : SuffixList) :
    (checks l).map Prod.fst = (entities l).flatMap checksOf := List.zipIdx_map_fst 0 _

/-- The lookup of a numbered check, if it is one of records. -/
def lookup? (resolver : Resolver) (timeout : Nat) (c : Check × Nat) : Option Task :=
  match c.1 with
  | .records s => some ⟨c.2, s, Query.about resolver timeout s.value.domain⟩
  | .wildcard _ => none

theorem tasks_eq : tasks resolver timeout l = (checks l).filterMap (lookup? resolver timeout) := rfl

/-- The wildcard of a numbered check, if it is one of a wildcard. -/
def wildcard? (c : Check × Nat) : Option (Located Wildcard × Nat) :=
  match c.1 with
  | .records _ => none
  | .wildcard w => some (w, c.2)

theorem wildcards_eq : wildcards l = (checks l).filterMap wildcard? := rfl

theorem position_of_lookup? {c : Check × Nat} {t : Task} (h : lookup? resolver timeout c = some t) :
    t.position = c.2 := by
  unfold lookup? at h
  split at h
  · cases h
    rfl
  · cases h

theorem pairwise_tasks : (tasks resolver timeout l).Pairwise fun t u => t.position < u.position := by
  rw [tasks_eq]
  refine (pairwise_checks l).filterMap _ fun c d hcd t ht u hu => ?_
  rw [position_of_lookup? ht, position_of_lookup? hu]
  exact hcd

/-! ## A small list -/

def nameOfA : Name where
  labels := [⟨"a", by decide, by decide, List.all_eq_true.mp (by decide)⟩]
  nonempty := by decide
  size_le := by decide

def nameOfB : Name where
  labels := [⟨"b", by decide, by decide, List.all_eq_true.mp (by decide)⟩]
  nonempty := by decide
  size_le := by decide

/-- An entity with two suffixes and a wildcard, of which the first suffix is new. -/
def small : SuffixList where
  blocks := [.group (.ofSection { name := privateSection })
    [.group (.ofEntity { info := { name := "Example" }, changed := true })
      [.entry (.ofSuffix { domain := nameOfA, changed := true }),
        .entry (.ofWildcard { domain := nameOfA }),
        .entry (.ofSuffix { domain := nameOfB })]]]

/-- Slow answers to the lookups of `small`. -/
def slow : Resolver :=
  Resolver.ofTable [("_psl.a", ⟨some 8, .ok ["https://example.org/482"]⟩),
    ("_psl.b", ⟨some 3, .ok []⟩)]

-- wildcards are numbered after the suffixes of their entity
example : (tasks slow 10 small).map Task.position = [0, 1] ∧
    (wildcards small).map (·.2) = [2] := by decide

/-! ## Objections by number -/

/-- What can be held against a suffix. -/
theorem eq_of_verdict {s : Located Suffix} {result : Except LookupError (Option ChangeId)}
    {v : Violation} (h : verdict expected s result = some v) :
    (∃ e, v = .failedLookup s e) ∨ ∃ n declared, v = .wrongChange s n declared := by
  unfold verdict at h
  split at h
  · exact .inl ⟨_, (Option.some.inj h).symm⟩
  · split at h
    · cases h
    · split at h
      · exact .inr ⟨_, _, (Option.some.inj h).symm⟩
      · cases h

/-- The objection to what is checked, given by a lookup of its own. -/
def objection? (resolver : Resolver) (timeout : Nat) (expected : Option ChangeId) :
    Check → Option Violation
  | .records s => verdict expected s (lookupChange resolver timeout s.value.domain)
  | .wildcard w => some (.unverifiableWildcard w)

/-- The objection with the number of its check. -/
def finding? (resolver : Resolver) (timeout : Nat) (expected : Option ChangeId) (c : Check × Nat) :
    Option (Nat × Violation) :=
  (objection? resolver timeout expected c.1).map (c.2, ·)

/-- Whether a check is settled when the lookups of `ended` are over. -/
def settled (ended : List Task) (c : Check × Nat) : Bool :=
  match c.1 with
  | .records _ => ended.any fun t => t.position == c.2
  | .wildcard _ => true

theorem pairwise_findings (resolver : Resolver) (timeout : Nat) (expected : Option ChangeId)
    {cs : List (Check × Nat)} (h : cs.Pairwise fun c d => c.2 < d.2) :
    (cs.filterMap (finding? resolver timeout expected)).Pairwise fun a b => a.1 < b.1 := by
  refine h.filterMap _ fun c d hcd a ha b hb => ?_
  obtain ⟨_, _, rfl⟩ := Option.map_eq_some_iff.mp ha
  obtain ⟨_, _, rfl⟩ := Option.map_eq_some_iff.mp hb
  exact hcd

/-! ## The lookups that are over -/

theorem settled_of_lookup? {ended : List Task} {c : Check × Nat} {t : Task}
    (h : lookup? resolver timeout c = some t) :
    settled ended c = true ↔ ∃ u ∈ ended, u.position = t.position := by
  rw [position_of_lookup? h]
  unfold lookup? at h
  unfold settled
  split at h
  · next hc => simp
  · cases h

theorem settled_of_wildcard? {ended : List Task} {c : Check × Nat} {w : Located Wildcard × Nat}
    (h : wildcard? c = some w) : settled ended c = true := by
  unfold wildcard? at h
  unfold settled
  split at h
  · cases h
  · next hc => simp

theorem perm_settled_lookups {ended : List Task} (h : ended.Subperm (tasks resolver timeout l)) :
    ended.Perm (((checks l).filter (settled ended)).filterMap (lookup? resolver timeout)) := by
  have hnodup : (tasks resolver timeout l).Nodup := nodup_of_pairwise_lt pairwise_tasks
  have hended : ended.Nodup := by
    obtain ⟨ts, hperm, hsub⟩ := h
    exact hperm.nodup_iff.mp (hsub.nodup hnodup)
  have hsettled := (List.filter_sublist (p := settled ended) (l := checks l)).filterMap
    (lookup? resolver timeout)
  refine (List.perm_ext_iff_of_nodup hended (hsettled.nodup hnodup)).mpr fun t => ?_
  simp only [List.mem_filterMap, List.mem_filter]
  constructor
  · intro ht
    obtain ⟨c, hc, hct⟩ := List.mem_filterMap.mp (h.subset ht)
    exact ⟨c, ⟨hc, (settled_of_lookup? hct).mpr ⟨t, ht, rfl⟩⟩, hct⟩
  · rintro ⟨c, ⟨hc, hset⟩, hct⟩
    obtain ⟨u, hu, hut⟩ := (settled_of_lookup? hct).mp hset
    have ht : t ∈ tasks resolver timeout l := List.mem_filterMap.mpr ⟨c, hc, hct⟩
    rw [← eq_of_pairwise_lt pairwise_tasks (h.subset hu) ht hut]
    exact hu

theorem settled_wildcards (ended : List Task) :
    ((checks l).filter (settled ended)).filterMap wildcard? = wildcards l := by
  rw [wildcards_eq, List.filterMap_filter]
  refine List.filterMap_congr fun c _ => ?_
  cases hw : wildcard? c with
  | none => simp
  | some w => simp [settled_of_wildcard? hw]

/-! ## The report of a run -/

/-- Wildcards and suffixes together, whichever come first, are all there is to say of the checks. -/
theorem perm_findings (resolver : Resolver) (timeout : Nat) (expected : Option ChangeId)
    (cs : List (Check × Nat)) :
    ((cs.filterMap wildcard?).map (fun w => (w.2, Violation.unverifiableWildcard w.1)) ++
      (cs.filterMap (lookup? resolver timeout)).filterMap (Task.objection? expected)).Perm
    (cs.filterMap (finding? resolver timeout expected)) := by
  induction cs with
  | nil => exact List.Perm.refl _
  | cons c cs ih =>
    obtain ⟨check, n⟩ := c
    cases check with
    | wildcard w => exact ih.cons _
    | records s =>
      -- an objection to a suffix has to pass those to all later wildcards
      let t : Task := ⟨n, s, Query.about resolver timeout s.value.domain⟩
      have hfinding : finding? resolver timeout expected (.records s, n) = t.objection? expected := rfl
      rw [List.filterMap_cons_none (f := wildcard?) rfl,
        List.filterMap_cons_some (f := lookup? resolver timeout) (b := t) rfl]
      cases hobj : t.objection? expected with
      | none =>
        rw [List.filterMap_cons_none hobj, List.filterMap_cons_none (hfinding.trans hobj)]
        exact ih
      | some v =>
        rw [List.filterMap_cons_some hobj, List.filterMap_cons_some (hfinding.trans hobj)]
        exact List.perm_middle.trans (ih.cons v)

/-- **A run reports** the objections of the checks that it settles, in the order of the checks. -/
theorem violations_eq (resolver : Resolver) (timeout : Nat) (expected : Option ChangeId)
    (l : SuffixList) (run : Schedule.State Task)
    (h : run.completed.Subperm (tasks resolver timeout l)) :
    violations expected l run = ((checks l).filter (settled run.completed)).filterMap
      fun c => objection? resolver timeout expected c.1 := by
  have hperm := perm_findings resolver timeout expected
    ((checks l).filter (settled run.completed))
  rw [settled_wildcards] at hperm
  have hfound := ((perm_settled_lookups h).filterMap (Task.objection? expected)).append_left
    ((wildcards l).map fun w => (w.2, Violation.unverifiableWildcard w.1))
  have hsorted := pairwise_findings resolver timeout expected
    ((pairwise_checks l).filter (settled run.completed))
  rw [violations, inOrder_eq_of_perm (hfound.trans hperm) hsorted, List.map_filterMap]
  refine List.filterMap_congr fun c _ => ?_
  rw [finding?, Option.map_map]
  exact Option.map_id'

end PublicSuffix.Online
