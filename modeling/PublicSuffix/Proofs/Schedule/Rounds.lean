import PublicSuffix.Proofs.Schedule.Turns
import Mathlib.Algebra.Order.Floor.Div
import Mathlib.GroupTheory.GroupAction.Ring

/-!
# How long a run can last

No task takes longer than some time `T`. Then the tasks that are started could as well be dealt in
rounds, one task for each place, with a time of `T` for each round: `k` starts make `k / places` full
rounds, and the next task starts no later than these take. A run is never slower than that
(`Reachable.inRounds`), wherever it is: a place that is left early is taken early, and a task that is
refused holds nobody up.

The argument needs to know which starts the running tasks are. They are some of the starts, in the
order of the starts (`running_sublist_ends`); so if all places are taken, the one that has run for
longest was started at least as many starts ago as there are places.
-/

namespace PublicSuffix.Schedule

namespace State

variable {α : Type} {p : Plan α} {s s' : State α} {tasks : List α} {T : Nat}

/-! ## The running tasks among the starts -/

/-- The starts with the times at which the tasks end or will end. -/
def ends (p : Plan α) (s : State α) : List (α × Nat) :=
  s.starts.map fun x => (x.1, x.2 + (p.duration? x.1).getD 0)

theorem ends_begin (p : Plan α) (a : α) (rest : List α) (s : State α) :
    (s.begin p a rest).ends p =
      s.ends p ++ (p.duration? a).toList.map fun d => (a, s.now + d) := by
  rw [ends, starts_begin, List.map_append, Plan.accepts]
  cases h : p.duration? a <;> simp [ends, h]

theorem running_sublist_begin {a : α} {rest : List α} (hs : s.running.Sublist (s.ends p)) :
    (s.begin p a rest).running.Sublist ((s.begin p a rest).ends p) := by
  rw [ends_begin]
  unfold State.begin
  split
  · exact hs.trans (List.sublist_append_left _ _)
  · exact hs.trans (List.sublist_append_left _ _)
  · next h =>
    rw [h]
    exact hs.append (List.Sublist.refl _)

theorem running_sublist_ends (h : Reachable p tasks s) : s.running.Sublist (s.ends p) := by
  refine h.keeps (P := fun s => s.running.Sublist (s.ends p)) (List.Sublist.refl _)
    fun s s' hs hstep => ?_
  cases hstep with
  | cancelNow _ _ => exact hs
  | begin _ _ _ => exact running_sublist_begin hs
  | advance _ _ _ _ =>
    rw [ends, starts_advance]
    exact List.filter_sublist.trans hs
  | cancelLater _ _ _ _ _ => exact hs

/-- The first of `n` members that are picked in order has as many members from there on. -/
theorem exists_index_of_cons_sublist {β : Type} {x : β} {xs ys : List β} (h : (x :: xs).Sublist ys) :
    ∃ i, ys[i]? = some x ∧ i + (xs.length + 1) ≤ ys.length := by
  obtain ⟨pre, post, rfl, hx, hxs⟩ := List.cons_sublist_iff.mp h
  obtain ⟨i, hi, rfl⟩ := List.mem_iff_getElem.mp hx
  refine ⟨i, ?_, ?_⟩
  · rw [List.getElem?_append_left hi, List.getElem?_eq_getElem hi]
  · have := hxs.length_le
    rw [List.length_append]
    omega

/-! ## Rounds -/

/-- What has happened so far keeps up with the rounds. -/
structure InRounds (p : Plan α) (T : Nat) (s : State α) : Prop where
  starts : ∀ k x, s.starts[k]? = some x → x.2 ≤ k / p.places * T
  /-- While something waits, the next start is still in time. -/
  next : s.waiting ≠ [] → s.now ≤ s.starts.length / p.places * T
  elapsed : s.now ≤ s.starts.length ⌈/⌉ p.places * T

section Rounds

variable (hT : ∀ x ∈ s.starts, ∀ d, p.duration? x.1 = some d → d ≤ T)
include hT

/-- A start of some round has ended when the round is over. -/
theorem InRounds.end_le (hs : s.InRounds p T) {i : Nat} {r : α × Nat}
    (hr : (s.ends p)[i]? = some r) : r.2 ≤ (i / p.places + 1) * T := by
  rw [ends, List.getElem?_map, Option.map_eq_some_iff] at hr
  obtain ⟨x, hx, rfl⟩ := hr
  have hstart := hs.starts i x hx
  have hduration : (p.duration? x.1).getD 0 ≤ T := by
    cases hd : p.duration? x.1 with
    | none => exact Nat.zero_le T
    | some d => exact hT x (List.mem_of_getElem? hx) d hd
  rw [Nat.add_mul, Nat.one_mul]
  exact Nat.add_le_add hstart hduration

/-- Something that runs is over before the rounds of all starts are. -/
theorem InRounds.nextEnd_le_ceil (hp : 0 < p.places) (hs : s.InRounds p T)
    (hsub : s.running.Sublist (s.ends p)) {t : Nat} (ht : s.nextEnd? = some t) :
    t ≤ s.starts.length ⌈/⌉ p.places * T := by
  obtain ⟨⟨r, hr, rfl⟩, -⟩ := nextEnd?_eq_some_iff.mp ht
  obtain ⟨i, hi, hri⟩ := List.mem_iff_getElem.mp (hsub.subset hr)
  have hlength : i < s.starts.length := by simpa [ends] using hi
  have hround : i / p.places + 1 ≤ s.starts.length ⌈/⌉ p.places := by
    rw [Nat.ceilDiv_eq_add_pred_div, ← Nat.add_div_right i hp]
    exact Nat.div_le_div_right (by omega)
  have hend := hs.end_le hT (List.getElem?_eq_some_iff.mpr ⟨hi, hri⟩)
  exact Nat.le_trans hend (Nat.mul_le_mul_right T hround)

/-- If all places are taken, one of them is free again in time for the next start. -/
theorem InRounds.nextEnd_le_floor (hp : 0 < p.places) (hs : s.InRounds p T)
    (hsub : s.running.Sublist (s.ends p)) (hfull : p.places ≤ s.running.length) {t : Nat}
    (ht : s.nextEnd? = some t) : t ≤ s.starts.length / p.places * T := by
  cases hrunning : s.running with
  | nil =>
    rw [hrunning] at hfull
    exact absurd hp (Nat.not_lt.mpr hfull)
  | cons r rs =>
    rw [hrunning] at hsub hfull
    obtain ⟨i, hi, hlength⟩ := exists_index_of_cons_sublist hsub
    have hround : i / p.places + 1 ≤ s.starts.length / p.places := by
      rw [← Nat.add_div_right i hp]
      refine Nat.div_le_div_right ?_
      simp only [ends, List.length_map, List.length_cons] at hlength hfull
      omega
    have hfirst : t ≤ r.2 := (nextEnd?_eq_some_iff.mp ht).2 r (by simp [hrunning])
    exact Nat.le_trans hfirst
      (Nat.le_trans (hs.end_le hT hi) (Nat.mul_le_mul_right T hround))

omit hT in
theorem InRounds.begin {a : α} {rest : List α} (hs : s.InRounds p T)
    (hw : s.waiting = a :: rest) : (s.begin p a rest).InRounds p T := by
  have hnow : s.now ≤ s.starts.length / p.places * T := hs.next (by simp [hw])
  have hgrow : s.starts.length ≤ (s.begin p a rest).starts.length := by
    rw [starts_begin, List.length_append]
    exact Nat.le_add_right _ _
  refine ⟨fun k x hx => ?_, fun _ => ?_, ?_⟩
  · rw [starts_begin] at hx
    rcases Nat.lt_or_ge k s.starts.length with hk | hk
    · rw [List.getElem?_append_left hk] at hx
      exact hs.starts k x hx
    · -- the new start, if there is one
      rw [List.getElem?_append_right hk] at hx
      have hmem := List.mem_of_getElem? hx
      have hxnow : x.2 = s.now := by
        split at hmem
        · rw [List.mem_singleton.mp hmem]
        · cases hmem
      rw [hxnow]
      exact Nat.le_trans hnow (Nat.mul_le_mul_right T (Nat.div_le_div_right hk))
  · rw [now_begin]
    exact Nat.le_trans hnow (Nat.mul_le_mul_right T (Nat.div_le_div_right hgrow))
  · rw [now_begin]
    refine Nat.le_trans hs.elapsed (Nat.mul_le_mul_right T ?_)
    rw [Nat.ceilDiv_eq_add_pred_div, Nat.ceilDiv_eq_add_pred_div]
    exact Nat.div_le_div_right (by omega)

theorem Step.inRounds (hp : 0 < p.places) (h : Step p s s') (hs : s.InRounds p T)
    (hsub : s.running.Sublist (s.ends p)) : s'.InRounds p T := by
  -- waiting for the next end or for less is no longer than the rounds
  have hwait : ∀ {t t' : Nat}, s.Blocked p → s.nextEnd? = some t → t' ≤ t →
      (s.waiting ≠ [] → t' ≤ s.starts.length / p.places * T) ∧
        t' ≤ s.starts.length ⌈/⌉ p.places * T := by
    intro t t' hblocked ht hle
    refine ⟨fun hw => ?_, Nat.le_trans hle (hs.nextEnd_le_ceil hT hp hsub ht)⟩
    have hfull : p.places ≤ s.running.length := hblocked.resolve_left hw
    exact Nat.le_trans hle (hs.nextEnd_le_floor hT hp hsub hfull ht)
  cases h with
  | cancelNow _ _ => exact ⟨hs.starts, hs.next, hs.elapsed⟩
  | begin _ hw _ => exact hs.begin hw
  | @advance t _ hblocked ht _ =>
    obtain ⟨hnext, helapsed⟩ := hwait hblocked ht (Nat.le_refl t)
    have hstarts := starts_advance t s
    refine ⟨?_, ?_, ?_⟩
    · rw [hstarts]
      exact hs.starts
    · rw [hstarts]
      exact hnext
    · rw [hstarts]
      exact helapsed
  | cancelLater _ hblocked ht _ hdt =>
    obtain ⟨hnext, helapsed⟩ := hwait hblocked ht hdt
    exact ⟨hs.starts, hnext, helapsed⟩

end Rounds

/-- **A run keeps up with the rounds** in every state. -/
theorem Reachable.inRounds (hp : 0 < p.places)
    (hT : ∀ a ∈ tasks, ∀ d, p.duration? a = some d → d ≤ T) (h : Reachable p tasks s) :
    s.InRounds p T := by
  induction h with
  | start => exact ⟨nofun, fun _ => Nat.zero_le _, Nat.zero_le _⟩
  | step hreach hs ih =>
    refine (Step.of_step? hs).inRounds (fun x hx => ?_) hp ih (running_sublist_ends hreach)
    exact hT x.1 (mem_of_mem_starts hreach hx)

end State

end PublicSuffix.Schedule
