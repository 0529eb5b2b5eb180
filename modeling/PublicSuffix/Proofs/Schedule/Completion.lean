import PublicSuffix.Proofs.Schedule.Steps
import Mathlib.Data.List.Perm.Basic
import Mathlib.Data.List.Perm.Subperm

/-!
# No task is lost

In every state of a run each task is exactly one of these: over, running or waiting
(`accounted_run`). A run that is not cancelled ends with nothing left to do, so then all tasks are
over, each once, in whatever order (`completed_run_perm`).
-/

namespace PublicSuffix.Schedule

namespace State

variable {α : Type} {p : Plan α} {s s' : State α} {tasks : List α}

/-! ## Where the tasks are -/

/-- The tasks are those that are over, those that run and those that wait. -/
def Accounted (tasks : List α) (s : State α) : Prop :=
  (s.completed ++ s.running.map (·.1) ++ s.waiting).Perm tasks

theorem accounted_initial (tasks : List α) : (initial tasks).Accounted tasks :=
  List.Perm.refl _

theorem completed_advance (t : Nat) (s : State α) :
    (s.advance t).completed = s.completed ++ (s.running.filter fun r => r.2 ≤ t).map (·.1) := by
  simp [completed, advance, List.filterMap_map]

theorem accounted_begin {a : α} {rest : List α} (hw : s.waiting = a :: rest)
    (hs : s.Accounted tasks) : (s.begin p a rest).Accounted tasks := by
  refine List.Perm.trans ?_ hs
  rw [hw]
  -- a task that is over at once passes those that run
  have hpass : (s.completed ++ [a] ++ s.running.map (·.1) ++ rest).Perm
      (s.completed ++ s.running.map (·.1) ++ a :: rest) := by
    rw [List.append_assoc, List.append_assoc, List.append_assoc, List.singleton_append]
    exact List.perm_middle.symm.append_left _
  unfold State.begin
  split
  · simpa [completed] using hpass
  · simpa [completed] using hpass
  · simp [completed]

theorem accounted_advance (t : Nat) (hs : s.Accounted tasks) : (s.advance t).Accounted tasks := by
  refine List.Perm.trans (List.Perm.append_right _ ?_) hs
  have hrest : (s.running.filter fun r => decide (t < r.2)) =
      s.running.filter fun r => !decide (r.2 ≤ t) := by
    refine List.filter_congr fun r _ => ?_
    by_cases h : r.2 ≤ t <;> simp [h]
    omega
  rw [completed_advance, List.append_assoc, advance, hrest, ← List.map_append]
  exact ((List.filter_append_perm _ _).map _).append_left _

theorem Step.accounted (h : Step p s s') (hs : s.Accounted tasks) : s'.Accounted tasks := by
  cases h with
  | cancelNow _ _ => exact hs
  | begin _ hw _ => exact accounted_begin hw hs
  | advance _ _ _ _ => exact accounted_advance _ hs
  | cancelLater _ _ _ _ _ => exact hs

theorem accounted_run (p : Plan α) (tasks : List α) : (run p tasks).Accounted tasks :=
  finish_induction (fun _ _ hs h => h.accounted hs) _ (accounted_initial tasks)

/-- No task is over twice, and nothing is over that is no task. -/
theorem completed_run_subperm (p : Plan α) (tasks : List α) :
    (run p tasks).completed.Subperm tasks := by
  have hall := accounted_run p tasks
  rw [Accounted, List.append_assoc] at hall
  exact (List.sublist_append_left _ _).subperm.trans hall.subperm

/-! ## The end of a run -/

theorem cancelled_run_of_no_deadline (hp : p.deadline = none) :
    (run p tasks).cancelled = false :=
  finish_induction (P := fun s => s.cancelled = false)
    (fun _ _ _ h => h.cancelled_of_no_deadline hp) _ rfl

theorem running_of_await? (h : s.await? p = none) : s.running = [] := by
  unfold await? at h
  split at h
  · next hn => simpa [nextEnd?, List.min?_eq_none_iff] using hn
  · simp at h
  · simp at h

/-- Where there are places, only a cancellation leaves something to do. -/
theorem idle_of_done (hp : 0 < p.places) (hc : s.cancelled = false) (h : s.step? p = none) :
    s.waiting = [] ∧ s.running = [] := by
  unfold step? at h
  rw [hc] at h
  split at h
  · next hf => cases hf
  split at h
  · simp at h
  split at h
  · next hw => exact ⟨hw, running_of_await? h⟩
  · split at h
    · simp at h
    · next hroom =>
      rw [running_of_await? h] at hroom
      exact absurd hp hroom

/-- **A run that is not cancelled** completes every task once. -/
theorem completed_run_perm (hp : 0 < p.places) (hc : (run p tasks).cancelled = false) :
    (run p tasks).completed.Perm tasks := by
  obtain ⟨hwaiting, hrunning⟩ := idle_of_done hp hc (step?_finish _)
  have hall := accounted_run p tasks
  unfold Accounted at hall
  rwa [hwaiting, hrunning, List.map_nil, List.append_nil, List.append_nil] at hall

end State

end PublicSuffix.Schedule
