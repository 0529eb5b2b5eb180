import PublicSuffix.Proofs.Online.Sequential
import PublicSuffix.Proofs.Schedule.Deadline

/-!
# A cancelled verification

A deadline leaves of a verification what is known before it: the objections to all wildcards, and
those to the suffixes whose lookups end before the deadline when there is none. `verify_deadline`
says so, and compares two deadlines. The runs with and without a deadline are compared by `cut_run`;
what is left to do here is to read the reports off their histories.
-/

namespace PublicSuffix.Online

open Schedule (Before NoLater)

/-! ## What is over before a deadline -/

/-- Whether the lookup with the given number is over before a deadline. -/
def overBefore (deadline : Option Nat) (history : List (Schedule.Event Task)) (position : Nat) :
    Bool :=
  history.any fun e => e.change ≠ .started ∧ e.task.position = position ∧ Before e.time deadline

/-- Whether a check is settled before a deadline. There is nothing to wait for at a wildcard. -/
def settledBefore (deadline : Option Nat) (history : List (Schedule.Event Task))
    (c : Check × Nat) : Bool :=
  match c.1 with
  | .records _ => overBefore deadline history c.2
  | .wildcard _ => true

theorem any_completed (s : Schedule.State Task) (P : Task → Bool) :
    s.completed.any P = s.history.any fun e => e.change ≠ .started ∧ P e.task := by
  rw [Schedule.State.completed, List.any_filterMap]
  congr 1
  funext e
  cases he : e.change <;> simp

theorem settled_until (p : Schedule.Plan Task) (ts : List Task) (deadline : Option Nat) :
    settled (Schedule.run (p.until deadline) ts).completed =
      settledBefore deadline (Schedule.run (p.until none) ts).history := by
  funext ⟨check, n⟩
  cases check with
  | wildcard w => rfl
  | records s =>
    simp only [settled, settledBefore, overBefore]
    rw [any_completed, Schedule.State.run_until, List.any_filter]
    congr 1
    funext e
    simp only [← Bool.decide_and, beq_iff_eq, decide_eq_decide]
    constructor
    · rintro ⟨htime, hchange, hposition⟩
      exact ⟨hchange, hposition, htime⟩
    · rintro ⟨hchange, hposition, htime⟩
      exact ⟨htime, hchange, hposition⟩

/-! ## Reports under a deadline -/

section Report

variable (resolver : Resolver) (settings : Settings) (expected : Option ChangeId)
  (l : SuffixList)

/-- What happens without a deadline. -/
def freeHistory : List (Schedule.Event Task) :=
  (Schedule.run (plan settings none) (tasks resolver settings.timeout l)).history

theorem violations_deadline (deadline : Option Nat) :
    (verify resolver settings expected deadline l).violations =
      ((checks l).filter (settledBefore deadline (freeHistory resolver settings l))).filterMap
        fun c => objection? resolver settings.timeout expected c.1 := by
  have hsubperm := Schedule.State.completed_run_subperm (plan settings deadline)
    (tasks resolver settings.timeout l)
  have hsettled : settled (Schedule.run (plan settings deadline)
      (tasks resolver settings.timeout l)).completed =
        settledBefore deadline (freeHistory resolver settings l) :=
    settled_until (plan settings none) (tasks resolver settings.timeout l) deadline
  rw [← hsettled]
  exact violations_eq resolver settings.timeout expected l _ hsubperm

theorem cancelled_deadline (deadline : Option Nat) :
    (verify resolver settings expected deadline l).cancelled = true ↔
      ∃ d, deadline = some d ∧ d ≤ (verify resolver settings expected none l).elapsed := by
  cases deadline with
  | none =>
    simp [cancelled_of_no_deadline resolver settings expected l]
  | some d =>
    have hcut := (Schedule.State.cut_run (plan settings none)
      (tasks resolver settings.timeout l) d).cancelled
    have hcancelled : (verify resolver settings expected (some d) l).cancelled =
      decide (d ≤ (verify resolver settings expected none l).elapsed) := hcut
    simp [hcancelled]

theorem elapsed_deadline (d : Nat) :
    (verify resolver settings expected (some d) l).elapsed =
      min d (verify resolver settings expected none l).elapsed :=
  (Schedule.State.cut_run (plan settings none) (tasks resolver settings.timeout l) d).now

theorem violations_sublist {deadline later : Option Nat} (h : NoLater deadline later) :
    (verify resolver settings expected deadline l).violations.Sublist
      (verify resolver settings expected later l).violations := by
  rw [violations_deadline, violations_deadline]
  refine List.Sublist.filterMap _ (List.monotone_filter_right _ fun c hc => ?_)
  obtain ⟨check, n⟩ := c
  cases check with
  | wildcard w => rfl
  | records s =>
    obtain ⟨e, he, hover⟩ := List.any_eq_true.mp hc
    obtain ⟨hchange, hposition, htime⟩ := of_decide_eq_true hover
    refine List.any_eq_true.mpr ⟨e, he, decide_eq_true ⟨hchange, hposition, ?_⟩⟩
    exact Schedule.before_of_noLater h htime

theorem queries_isPrefix {deadline later : Option Nat} (h : NoLater deadline later) :
    (verify resolver settings expected deadline l).queries <+:
      (verify resolver settings expected later l).queries := by
  have hhistory := Schedule.State.run_until_isPrefix (plan settings none)
    (tasks resolver settings.timeout l) h
  exact (hhistory.filterMap _).filterMap _

/-- **A cancellation only cuts a verification short.** It takes place if its time comes before
the end, and then it is the end. All wildcards are reported, and of the suffixes those whose
lookups are over before. The earlier of two cancellations leaves a part of the objections and a
beginning of the queries that the later one leaves. -/
theorem verify_deadline (deadline : Option Nat) :
    ((verify resolver settings expected deadline l).cancelled = true ↔
      ∃ d, deadline = some d ∧ d ≤ (verify resolver settings expected none l).elapsed) ∧
    ((verify resolver settings expected deadline l).cancelled = true →
      deadline = some (verify resolver settings expected deadline l).elapsed) ∧
    ((verify resolver settings expected deadline l).cancelled = false →
      (verify resolver settings expected deadline l).elapsed =
        (verify resolver settings expected none l).elapsed) ∧
    (verify resolver settings expected deadline l).violations =
      ((checks l).filter (settledBefore deadline (freeHistory resolver settings l))).filterMap
        (fun c => objection? resolver settings.timeout expected c.1) ∧
    ∀ later, NoLater deadline later →
      (verify resolver settings expected deadline l).violations.Sublist
        (verify resolver settings expected later l).violations ∧
      (verify resolver settings expected deadline l).queries <+:
        (verify resolver settings expected later l).queries := by
  have hcancelled := cancelled_deadline resolver settings expected l deadline
  refine ⟨hcancelled, fun hcut => ?_, fun hcut => ?_, ?_, fun later hlater => ⟨?_, ?_⟩⟩
  · obtain ⟨d, rfl, hd⟩ := hcancelled.mp hcut
    rw [elapsed_deadline, Nat.min_eq_left hd]
  · cases deadline with
    | none => rfl
    | some d =>
      have hd : ¬d ≤ (verify resolver settings expected none l).elapsed := fun hd => by
        rw [hcancelled.mpr ⟨d, rfl, hd⟩] at hcut
        cases hcut
      exact (elapsed_deadline resolver settings expected l d).trans
        (Nat.min_eq_right (Nat.le_of_not_le hd))
  · exact violations_deadline resolver settings expected l deadline
  · exact violations_sublist resolver settings expected l hlater
  · exact queries_isPrefix resolver settings expected l hlater

end Report

/-- The second lookup is over before both of these cancellations, the first one before the later. -/
theorem verify_deadline_between :
    (verify slow {} (some 7) (some 5) small).cancelled = true ∧
    some 5 = some (verify slow {} (some 7) (some 5) small).elapsed ∧
    (verify slow {} (some 7) (some 9) small).cancelled = false ∧
    (verify slow {} (some 7) (some 9) small).elapsed =
      (verify slow {} (some 7) none small).elapsed ∧
    NoLater (some 5) (some 9) ∧
    (verify slow {} (some 7) (some 5) small).violations.Sublist
      (verify slow {} (some 7) (some 9) small).violations ∧
    (verify slow {} (some 7) (some 5) small).queries <+:
      (verify slow {} (some 7) (some 9) small).queries := by
  have hcut : (verify slow {} (some 7) (some 5) small).cancelled = true := by decide +kernel
  have hwhole : (verify slow {} (some 7) (some 9) small).cancelled = false := by decide +kernel
  have hlater : NoLater (some 5) (some 9) := fun d' hd' => by
    cases hd'
    exact ⟨5, rfl, by decide⟩
  obtain ⟨-, helapsed, -, -, hmono⟩ := verify_deadline slow {} (some 7) small (some 5)
  obtain ⟨-, -, helapsed', -, -⟩ := verify_deadline slow {} (some 7) small (some 9)
  exact ⟨hcut, helapsed hcut, hwhole, helapsed' hwhole, hlater, hmono _ hlater⟩

end PublicSuffix.Online
