import PublicSuffix.Proofs.Offline.Comments
import PublicSuffix.Proofs.Online.Settled
import PublicSuffix.Proofs.Schedule.Renaming

/-!
# Validation does not see comments

Comments may be put into a list wherever one likes, and both validations say of it what they said
before: `comments_irrelevant`. The only difference are the numbers of the blocks that the violations
are about, and one renumbering, which takes each block to itself, accounts for all of them.

The network pass collects its checks by walks that overlook comments, so the checks are the same
with the same positions (`checks_eq`), and so are the names and the times of their lookups. The run
then takes the same course (`Schedule.run_map`), and what it reports is sorted by position.
-/

namespace PublicSuffix

namespace Online

/-! ## Checks, lookups and reports under other numbers -/

def Check.renumber (φ : Nat → Nat) : Check → Check
  | .records s => .records (s.renumber φ)
  | .wildcard w => .wildcard (w.renumber φ)

/-- The same lookup for a suffix with another number. The position is not a number of a block. -/
def Task.renumber (φ : Nat → Nat) (t : Task) : Task := ⟨t.position, t.suffix.renumber φ, t.query⟩

def Report.renumber (φ : Nat → Nat) (r : Report) : Report :=
  { r with violations := r.violations.map (Violation.renumber φ) }

variable {φ : Nat → Nat} {l m : SuffixList}

/-! ## What is checked -/

theorem overlooks_isChangedEntity : Overlooks isChangedEntity false :=
  ⟨fun h _ _ => by cases h <;> rfl, fun _ => rfl⟩

theorem twins_entities (h : Alike φ l.located m.located) :
    List.Forall₂ (Located.Twin φ) (entities l) (entities m) := by
  have hsections := h.filter (overlooks_opensSection privateSection)
  exact (alike_flatMap_below hsections).filter overlooks_isChangedEntity

theorem checksOf_eq {x y : Located Block} (h : x.Twin φ y) :
    checksOf y = (checksOf x).map (Check.renumber φ) := by
  rw [checksOf, checksOf, h.below.select overlooks_suffix?, h.below.select overlooks_wildcard?,
    List.map_append, List.map_map, List.map_map, List.map_map, List.map_map]
  rfl

theorem flatMap_checksOf_eq {xs ys : List (Located Block)}
    (h : List.Forall₂ (Located.Twin φ) xs ys) :
    ys.flatMap checksOf = (xs.flatMap checksOf).map (Check.renumber φ) := by
  induction h with
  | nil => rfl
  | cons hxy _ ih => rw [List.flatMap_cons, List.flatMap_cons, List.map_append, checksOf_eq hxy, ih]

/-- The checks are the same, with the same positions. -/
theorem checks_eq (h : Alike φ l.located m.located) :
    checks m = (checks l).map (Prod.map (Check.renumber φ) id) := by
  rw [checks, checks, flatMap_checksOf_eq (twins_entities h), List.zipIdx_map]

theorem wildcards_eq_map (h : Alike φ l.located m.located) :
    wildcards m = (wildcards l).map (Prod.map (Located.renumber φ) id) := by
  rw [wildcards_eq, wildcards_eq, checks_eq h, List.filterMap_map, List.map_filterMap]
  refine List.filterMap_congr fun c _ => ?_
  obtain ⟨check, position⟩ := c
  cases check <;> rfl

theorem tasks_eq_map (resolver : Resolver) (timeout : Nat) (h : Alike φ l.located m.located) :
    tasks resolver timeout m = (tasks resolver timeout l).map (Task.renumber φ) := by
  rw [tasks_eq, tasks_eq, checks_eq h, List.filterMap_map, List.map_filterMap]
  refine List.filterMap_congr fun c _ => ?_
  obtain ⟨check, position⟩ := c
  cases check <;> rfl

/-! ## What is reported -/

theorem verdict_renumber (expected : Option ChangeId) (s : Located Suffix)
    (result : Except LookupError (Option ChangeId)) :
    verdict expected (s.renumber φ) result =
      (verdict expected s result).map (Violation.renumber φ) := by
  cases result with
  | error e => rfl
  | ok declared =>
    cases expected with
    | none => rfl
    | some n =>
      rw [verdict, verdict, Located.value_renumber]
      split <;> rfl

theorem objection?_renumber (expected : Option ChangeId) (t : Task) :
    (t.renumber φ).objection? expected =
      (t.objection? expected).map (Prod.map id (Violation.renumber φ)) := by
  show (verdict expected (t.suffix.renumber φ) t.change).map _ = _
  rw [verdict_renumber, Task.objection?, Option.map_map, Option.map_map]
  rfl

theorem inOrder_map (found : List (Nat × Violation)) :
    inOrder (found.map (Prod.map id (Violation.renumber φ))) =
      (inOrder found).map (Violation.renumber φ) := by
  have hsort : (found.map (Prod.map id (Violation.renumber φ))).mergeSort
      (fun a b => a.1 ≤ b.1) =
        (found.mergeSort fun a b => a.1 ≤ b.1).map (Prod.map id (Violation.renumber φ)) := by
    symm
    apply List.map_mergeSort
    intro a _ b _
    rfl
  rw [inOrder, inOrder, hsort, List.map_map, List.map_map]
  rfl

theorem violations_eq_map (expected : Option ChangeId) (run : Schedule.State Task)
    (h : Alike φ l.located m.located) :
    violations expected m (run.map (Task.renumber φ)) =
      (violations expected l run).map (Violation.renumber φ) := by
  rw [violations, violations, ← inOrder_map, wildcards_eq_map h, Schedule.State.completed_map,
    List.map_append, List.map_map, List.map_map, List.filterMap_map, List.map_filterMap]
  congr 2
  exact List.filterMap_congr fun t _ => objection?_renumber expected t

theorem messages_eq (lookups found : Nat) (run : Schedule.State Task)
    (h : Alike φ l.located m.located) :
    messages m lookups found (run.map (Task.renumber φ)) = messages l lookups found run := by
  -- a message quotes what a block says of itself, not its number
  have hevents : (run.map (Task.renumber φ)).history.flatMap eventMessages =
      run.history.flatMap eventMessages := List.flatMap_map ..
  rw [messages, messages, wildcards_eq_map h, List.map_map, hevents]
  rfl

theorem verify_eq (resolver : Resolver) (settings : Settings) (expected : Option ChangeId)
    (deadline : Option Nat) (h : Alike φ l.located m.located) :
    verify resolver settings expected deadline m =
      (verify resolver settings expected deadline l).renumber φ := by
  have hplan : (plan settings deadline).comap (Task.renumber φ) = plan settings deadline := rfl
  simp only [verify, Report.renumber]
  rw [tasks_eq_map resolver settings.timeout h, Schedule.run_map, hplan, violations_eq_map _ _ h,
    messages_eq _ _ _ h, Schedule.State.starts_map, Schedule.State.peak_map, List.length_map,
    List.length_map, List.filterMap_map]
  rfl

end Online

/-! ## Both validations -/

/-- **Comments do not matter**: a list with comments put in, in any places, has the same violations
in the same order, offline under any policy and through the network under any conditions, where the
cancellation, the queries with their times, the elapsed time, the peak and the messages are the same
as well. The blocks of the violations are matched by one renumbering. -/
theorem comments_irrelevant {l m : SuffixList} (h : l.Commented m) :
    ∃ φ : Nat → Nat, SuffixList.Matched φ l m ∧
      (∀ policy, Offline.validate policy m =
        (Offline.validate policy l).map (Violation.renumber φ)) ∧
      ∀ resolver settings expected deadline,
        Online.verify resolver settings expected deadline m =
          (Online.verify resolver settings expected deadline l).renumber φ := by
  obtain ⟨φ, hφ⟩ := h.exists_alike
  refine ⟨φ, SuffixList.matched_of_alike hφ, fun policy => ?_, fun _ _ _ _ => ?_⟩
  · exact Offline.validate_eq policy hφ
  · exact Online.verify_eq _ _ _ _ hφ

/-- `Online.small` with comments before and between its blocks, of which some are changed. -/
def commentedSmall : SuffixList where
  blocks := [.entry (.ofComment { text := ["// private"], changed := true }),
    .group (.ofSection { name := privateSection })
      [.group (.ofEntity { info := { name := "Example" }, changed := true })
        [.entry (.ofComment { text := [] }),
          .entry (.ofSuffix { domain := Online.nameOfA, changed := true }),
          .entry (.ofComment { text := ["// one", "// two"], lines := ⟨7, 8⟩, changed := true }),
          .entry (.ofWildcard { domain := Online.nameOfA }),
          .entry (.ofSuffix { domain := Online.nameOfB })],
        .entry (.ofComment { text := ["// end"] })]]

theorem commented_small : Online.small.Commented commentedSmall :=
  .comment _ (.cons (.group _ (.cons (.group _ (.comment _ (.cons (.entry _) (.comment _
    (.cons (.entry _) (.cons (.entry _) .nil)))))) (.comment _ .nil))) .nil)

/-- The five blocks of `Online.small` keep their order and their violations. -/
theorem comments_irrelevant_small :
    Online.small.Commented commentedSmall ∧
      ∃ φ : Nat → Nat, [1, 2, 3, 4, 5].map φ = [2, 3, 5, 7, 8] ∧
        (∀ policy, Offline.validate policy commentedSmall =
          (Offline.validate policy Online.small).map (Violation.renumber φ)) ∧
        ∀ resolver settings expected deadline,
          Online.verify resolver settings expected deadline commentedSmall =
            (Online.verify resolver settings expected deadline Online.small).renumber φ := by
  obtain ⟨φ, hφ, hoffline, honline⟩ := comments_irrelevant commented_small
  exact ⟨commented_small, φ, hφ.map_index, hoffline, honline⟩

end PublicSuffix
