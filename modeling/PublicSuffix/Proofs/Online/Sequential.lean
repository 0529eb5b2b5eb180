import PublicSuffix.Proofs.Online.Settled
import PublicSuffix.Proofs.Schedule.Completion

/-!
# The order of the lookups does not show

`sequential` verifies a list without a schedule: it goes through the checks as they are collected,
looks up each suffix by itself and writes down what there is to object. `violations_verify` says
that a verification that is not cancelled finds the same, however many queries may run at once.
A run completes each lookup once (`completed_run_perm`), and the order in which they are over makes
no difference (`violations_of_perm`).
-/

namespace PublicSuffix.Online

/-- The objections to a list, found by one lookup after another. -/
def sequential (resolver : Resolver) (timeout : Nat) (expected : Option ChangeId)
    (l : SuffixList) : List Violation :=
  ((entities l).flatMap checksOf).filterMap (objection? resolver timeout expected)

theorem sequential_eq_checks (resolver : Resolver) (timeout : Nat) (expected : Option ChangeId)
    (l : SuffixList) : sequential resolver timeout expected l =
      (checks l).filterMap fun c => objection? resolver timeout expected c.1 := by
  rw [sequential, ← map_fst_checks, List.filterMap_map]
  rfl

theorem settled_tasks {resolver : Resolver} {timeout : Nat} {l : SuffixList} {ended : List Task}
    (h : ended.Perm (tasks resolver timeout l)) {c : Check × Nat} (hc : c ∈ checks l) :
    settled ended c = true := by
  obtain ⟨check, n⟩ := c
  cases check with
  | wildcard w => rfl
  | records s =>
    let t : Task := ⟨n, s, Query.about resolver timeout s.value.domain⟩
    have hlookup : lookup? resolver timeout (.records s, n) = some t := rfl
    refine (settled_of_lookup? hlookup).mpr ⟨t, h.mem_iff.mpr ?_, rfl⟩
    exact List.mem_filterMap.mpr ⟨_, hc, hlookup⟩

/-- Whatever the order in which all lookups are over, the objections are the same. -/
theorem violations_of_perm (resolver : Resolver) (timeout : Nat) (expected : Option ChangeId)
    (l : SuffixList) (run : Schedule.State Task)
    (h : run.completed.Perm (tasks resolver timeout l)) :
    violations expected l run = sequential resolver timeout expected l := by
  have hall : (checks l).filter (settled run.completed) = checks l :=
    List.filter_eq_self.mpr fun c hc => settled_tasks h hc
  rw [violations_eq resolver timeout expected l run h.subperm, hall, sequential_eq_checks]

theorem places_pos (settings : Settings) (deadline : Option Nat) :
    0 < (plan settings deadline).places :=
  Nat.le_max_left 1 settings.maxQueries

/-- Unless the run is cancelled, every lookup is over at the end, once. -/
theorem completed_perm {resolver : Resolver} {settings : Settings} {expected : Option ChangeId}
    {deadline : Option Nat} {l : SuffixList}
    (h : (verify resolver settings expected deadline l).cancelled = false) :
    (Schedule.run (plan settings deadline) (tasks resolver settings.timeout l)).completed.Perm
      (tasks resolver settings.timeout l) :=
  Schedule.State.completed_run_perm (places_pos settings deadline) h

theorem violations_eq_sequential {resolver : Resolver} {settings : Settings}
    {expected : Option ChangeId} {deadline : Option Nat} {l : SuffixList}
    (h : (verify resolver settings expected deadline l).cancelled = false) :
    (verify resolver settings expected deadline l).violations =
      sequential resolver settings.timeout expected l :=
  violations_of_perm resolver settings.timeout expected l _ (completed_perm h)

theorem cancelled_of_no_deadline (resolver : Resolver) (settings : Settings)
    (expected : Option ChangeId) (l : SuffixList) :
    (verify resolver settings expected none l).cancelled = false :=
  Schedule.State.cancelled_run_of_no_deadline rfl

/-- **Concurrency does not show.** However many queries may run at once, a verification that is not
cancelled completes each lookup once and finds what is found by one lookup after another; and so it
would in any other order of the lookups. -/
theorem violations_verify (resolver : Resolver) (settings : Settings) (expected : Option ChangeId)
    (l : SuffixList) (m n : Nat) :
    (verify resolver { settings with maxQueries := m } expected none l).violations =
      (verify resolver { settings with maxQueries := n } expected none l).violations ∧
    (verify resolver { settings with maxQueries := m } expected none l).violations =
      sequential resolver settings.timeout expected l ∧
    (Schedule.run (plan { settings with maxQueries := m } none)
      (tasks resolver settings.timeout l)).completed.Perm (tasks resolver settings.timeout l) ∧
    ∀ run : Schedule.State Task, run.completed.Perm (tasks resolver settings.timeout l) →
      violations expected l run = sequential resolver settings.timeout expected l := by
  have hfree : ∀ k, (verify resolver { settings with maxQueries := k } expected none l).cancelled
      = false := fun k => cancelled_of_no_deadline _ _ _ _
  refine ⟨?_, violations_eq_sequential (hfree m), completed_perm (hfree m), fun run h => ?_⟩
  · rw [violations_eq_sequential (hfree m), violations_eq_sequential (hfree n)]
  · exact violations_of_perm resolver settings.timeout expected l run h

/-- The run of the lookups of `small` with some places. -/
def runWith (places : Nat) : Schedule.State Task :=
  Schedule.run (plan { timeout := 10, maxQueries := places } none) (tasks slow 10 small)

/-- With two places the lookups of `small` are over in the opposite order. -/
theorem violations_reversed :
    (runWith 0).completed.map Task.position = [0, 1] ∧
    (runWith 2).completed.map Task.position = [1, 0] ∧
    (verify slow { timeout := 10, maxQueries := 0 } (some 7) none small).violations =
      (verify slow { timeout := 10, maxQueries := 2 } (some 7) none small).violations ∧
    (verify slow { timeout := 10, maxQueries := 2 } (some 7) none small).violations =
      sequential slow 10 (some 7) small ∧
    (sequential slow 10 (some 7) small).flatMap Violation.nodes = [3, 5, 4] ∧
    (runWith 2).completed.Perm (tasks slow 10 small) ∧
    violations (some 7) small (runWith 2) = sequential slow 10 (some 7) small := by
  obtain ⟨hequal, -, -, -⟩ := violations_verify slow { timeout := 10 } (some 7) small 0 2
  obtain ⟨-, hsequential, hperm, hany⟩ :=
    violations_verify slow { timeout := 10 } (some 7) small 2 0
  exact ⟨by decide +kernel, by decide +kernel, hequal, hsequential, by decide +kernel, hperm,
    hany (runWith 2) hperm⟩

end PublicSuffix.Online
