import PublicSuffix.Proofs.Ordered
import PublicSuffix.Proofs.Schedule.Steps
import Mathlib.Order.Defs.LinearOrder

/-!
# Cancellation cuts a run short

A run with a deadline and the run without one go the same way until a step of the free run would
reach the deadline (`step?_until`). There the one is cancelled, and all that the other still does
happens at the deadline or later. So the history of the cancelled run is the part of the free
history that lies before the deadline (`run_until`). For two deadlines, the earlier one leaves a
beginning of what the later one leaves (`run_until_isPrefix`).
-/

namespace PublicSuffix.Schedule

variable {α : Type}

/-- The plan with another deadline. -/
def Plan.until (p : Plan α) (deadline : Option Nat) : Plan α := { p with deadline }

/-- Whether a time lies before a deadline. Every time lies before a deadline that never comes. -/
def Before (time : Nat) (deadline : Option Nat) : Prop := ∀ d, deadline = some d → time < d

instance (time : Nat) (deadline : Option Nat) : Decidable (Before time deadline) :=
  match deadline with
  | none => isTrue nofun
  | some d => decidable_of_iff (time < d) (by simp [Before])

theorem before_some {time d : Nat} : Before time (some d) ↔ time < d := by simp [Before]

theorem before_none (time : Nat) : Before time none := nofun

theorem Before.of_le {time earlier : Nat} {deadline : Option Nat} (h : Before time deadline)
    (hle : earlier ≤ time) : Before earlier deadline :=
  fun d hd => Nat.lt_of_le_of_lt hle (h d hd)

/-- Whether a deadline is no later than another one; none is later than one that never comes. -/
def NoLater (deadline later : Option Nat) : Prop :=
  ∀ d', later = some d' → ∃ d, deadline = some d ∧ d ≤ d'

theorem before_of_noLater {time : Nat} {deadline later : Option Nat} (h : NoLater deadline later)
    (ht : Before time deadline) : Before time later := by
  intro d' hd'
  obtain ⟨d, hd, hle⟩ := h d' hd'
  exact Nat.lt_of_lt_of_le (ht d hd) hle

namespace State

variable {p : Plan α} {s : State α} {d : Nat}

/-! ## One step under a deadline -/

theorem await?_until (p : Plan α) (s : State α) (d : Nat) :
    s.await? (p.until (some d)) =
      (s.await? (p.until none)).map fun s' => if d ≤ s'.now then s.cancel d else s' := by
  unfold await? Plan.until
  cases s.nextEnd? with
  | none => rfl
  | some t => rfl

/-- Before the deadline the next step is that of the free run, unless that one reaches the
deadline. -/
theorem step?_until (hc : s.cancelled = false) (hnow : s.now < d) :
    s.step? (p.until (some d)) =
      (s.step? (p.until none)).map fun s' => if d ≤ s'.now then s.cancel d else s' := by
  have hdue : s.cancellationDue (p.until (some d)) = false := by
    simp [cancellationDue, Plan.until, hnow]
  have hfree : s.cancellationDue (p.until none) = false := rfl
  unfold step?
  rw [hc, hdue, hfree]
  simp only [Bool.false_eq_true, if_false]
  cases s.waiting with
  | nil => exact await?_until p s d
  | cons a rest =>
    by_cases hroom : s.running.length < p.places
    · have hroom' : ∀ deadline, s.running.length < (p.until deadline).places := fun _ => hroom
      have hbegin : ¬d ≤ (s.begin (p.until none) a rest).now := by
        rw [now_begin]
        omega
      simp only [if_pos (hroom' _), Option.map_some, if_neg hbegin]
      rfl
    · have hroom' : ∀ deadline, ¬s.running.length < (p.until deadline).places := fun _ => hroom
      simp only [if_neg (hroom' _)]
      exact await?_until p s d

/-! ## A whole run under a deadline -/

/-- `cut` is what a cancellation at time `d` leaves of `free`. -/
structure Cut (d : Nat) (free cut : State α) : Prop where
  cancelled : cut.cancelled = decide (d ≤ free.now)
  now : cut.now = min d free.now
  history : cut.history = free.history.filter fun e => e.time < d

theorem filter_before {es : List (Event α)} (h : ∀ e ∈ es, e.time < d) :
    es.filter (fun e => e.time < d) = es :=
  List.filter_eq_self.mpr fun e he => by simpa using h e he

theorem filter_not_before {es : List (Event α)} (h : ∀ e ∈ es, d ≤ e.time) :
    es.filter (fun e => e.time < d) = [] :=
  List.filter_eq_nil_iff.mpr fun e he => by simpa using h e he

/-- A run that is over before the deadline is not cut. -/
theorem cut_self (hs : s.Timed) (hc : s.cancelled = false) (hnow : s.now < d) : Cut d s s := by
  refine ⟨by rw [hc, decide_eq_false (by omega)], by omega, ?_⟩
  exact (filter_before fun e he => Nat.lt_of_le_of_lt (hs.past e he) hnow).symm

/-- What is cancelled instead of reaching the deadline keeps what has happened so far. -/
theorem cut_cancel {s' free : State α} (hs : s.Timed) (hnow : s.now < d) (h : Step p s s')
    (hd : d ≤ s'.now) (hfree : s'.Precedes free) : Cut d free (s.cancel d) := by
  obtain ⟨es, hes, htime⟩ := h.history
  obtain ⟨hnow', fs, hfs, hftime⟩ := hfree
  have hpast : ∀ e ∈ s.history, e.time < d := fun e he => Nat.lt_of_le_of_lt (hs.past e he) hnow
  have hnext : ∀ e ∈ es, d ≤ e.time := fun e he => by rw [htime e he]; exact hd
  have hlater : ∀ e ∈ fs, d ≤ e.time := fun e he => Nat.le_trans hd (hftime e he)
  refine ⟨?_, ?_, ?_⟩
  · rw [decide_eq_true (Nat.le_trans hd hnow')]
    rfl
  · rw [Nat.min_eq_left (Nat.le_trans hd hnow')]
    rfl
  · rw [hfs, hes, List.filter_append, List.filter_append, filter_before hpast,
      filter_not_before hnext, filter_not_before hlater, List.append_nil, List.append_nil]
    rfl

theorem cut_finish (hs : s.Timed) (hc : s.cancelled = false) (hnow : s.now < d) :
    Cut d (s.finish (p.until none)) (s.finish (p.until (some d))) := by
  induction s using State.finish.induct (p := p.until none) with
  | case1 s hdone =>
    have hdone' : s.step? (p.until (some d)) = none := by
      rw [step?_until hc hnow, hdone, Option.map_none]
    rw [finish_of_done hdone, finish_of_done hdone']
    exact cut_self hs hc hnow
  | case2 s s' hs' ih =>
    have hstep := Step.of_step? hs'
    have hnext := step?_until (p := p) hc hnow
    rw [hs', Option.map_some] at hnext
    rw [finish_of_step? hs', finish_of_step? hnext]
    split
    · -- here the runs part
      next hd =>
      rw [finish_of_done (s := s.cancel d) (step?_of_cancelled rfl)]
      exact cut_cancel hs hnow hstep hd (precedes_finish (hstep.timed hs))
    · next hd => exact ih (hstep.timed hs) (hstep.cancelled_of_no_deadline rfl) (by omega)

/-- **A deadline cuts a run short** and changes nothing else: it cancels exactly the runs that
would reach it, and leaves what happens before it. -/
theorem cut_run (p : Plan α) (tasks : List α) (d : Nat) :
    Cut d (run (p.until none) tasks) (run (p.until (some d)) tasks) := by
  rcases Nat.eq_zero_or_pos d with rfl | hd
  · -- cancelled at the start, before anything can happen
    have hstep : (initial tasks).step? (p.until (some 0)) = some ((initial tasks).cancel 0) := rfl
    have hcut : run (p.until (some 0)) tasks = (initial tasks).cancel 0 := by
      rw [run, finish_of_step? hstep, finish_of_done (step?_of_cancelled rfl)]
    rw [hcut]
    refine ⟨by simp [cancel], by simp [cancel], ?_⟩
    rw [filter_not_before fun e _ => Nat.zero_le _]
    rfl
  · exact cut_finish (timed_initial tasks) rfl hd

/-- What happens under a deadline is what happens before it without one. -/
theorem run_until (p : Plan α) (tasks : List α) (deadline : Option Nat) :
    (run (p.until deadline) tasks).history =
      (run (p.until none) tasks).history.filter fun e => Before e.time deadline := by
  cases deadline with
  | none =>
    rw [List.filter_eq_self.mpr]
    exact fun e _ => decide_eq_true (before_none e.time)
  | some d => simp only [(cut_run p tasks d).history, before_some]

/-! ## Two deadlines -/

/-- The earlier of two deadlines leaves a beginning of what the later one leaves. -/
theorem run_until_isPrefix (p : Plan α) (tasks : List α) {deadline later : Option Nat}
    (h : NoLater deadline later) :
    (run (p.until deadline) tasks).history <+: (run (p.until later) tasks).history := by
  have hcut : (run (p.until deadline) tasks).history =
      (run (p.until later) tasks).history.filter fun e => Before e.time deadline := by
    rw [run_until p tasks deadline, run_until p tasks later, List.filter_filter]
    refine List.filter_congr fun e _ => ?_
    have hboth : Before e.time deadline ∧ Before e.time later ↔ Before e.time deadline :=
      and_iff_left_of_imp (before_of_noLater h)
    rw [← Bool.decide_and, decide_eq_decide]
    exact hboth.symm
  rw [hcut]
  refine filter_isPrefix_of_pairwise_le (f := Event.time) (P := fun t => Before t deadline)
    (timed_run _ tasks).sorted fun m n hmn hn => ?_
  rw [decide_eq_true_eq] at hn ⊢
  exact hn.of_le hmn

end State

end PublicSuffix.Schedule
