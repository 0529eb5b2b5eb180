import PublicSuffix.Provenance.Schedule
import Mathlib.Tactic.Common

/-!
# The steps of a run

`Step.of_step?` says once what a step can do: cancel, start the first waiting task, or advance to
the next end. Whatever is claimed of all states of a run is proved for the four cases of `Step` and
carried to the end of the run by `finish_induction`.

`Timed` is the invariant about time: nothing recorded lies in the future, nothing that runs should
have ended, and the history is in the order of time. A run only adds to its history, and only what
happens from then on (`precedes_finish`).
-/

namespace PublicSuffix.Schedule

namespace State

variable {α : Type} {p : Plan α} {s s' : State α}

/-! ## What a step can do -/

/-- Neither cancelled nor about to be. -/
def Live (p : Plan α) (s : State α) : Prop :=
  s.cancelled = false ∧ s.cancellationDue p = false

/-- Nothing can be started: nothing waits or no place is free. -/
def Blocked (p : Plan α) (s : State α) : Prop :=
  s.waiting = [] ∨ p.places ≤ s.running.length

/-- The states after one step. -/
inductive Step (p : Plan α) (s : State α) : State α → Prop where
  | cancelNow (hc : s.cancelled = false) (hdue : s.cancellationDue p = true) :
      Step p s (s.cancel s.now)
  | begin {a : α} {rest : List α} (hlive : s.Live p) (hw : s.waiting = a :: rest)
      (hroom : s.running.length < p.places) : Step p s (s.begin p a rest)
  | advance {t : Nat} (hlive : s.Live p) (hblocked : s.Blocked p) (ht : s.nextEnd? = some t)
      (hd : ∀ d, p.deadline = some d → t < d) : Step p s (s.advance t)
  | cancelLater {t d : Nat} (hlive : s.Live p) (hblocked : s.Blocked p)
      (ht : s.nextEnd? = some t) (hd : p.deadline = some d) (hdt : d ≤ t) : Step p s (s.cancel d)

theorem Step.of_await? (hlive : s.Live p) (hblocked : s.Blocked p) (h : s.await? p = some s') :
    Step p s s' := by
  unfold await? at h
  split at h
  · simp at h
  · next t ht hd =>
    cases h
    exact .advance hlive hblocked ht fun d hd' => by simp [hd] at hd'
  · next t d ht hd =>
    split at h
    · next hdt =>
      cases h
      exact .cancelLater hlive hblocked ht hd hdt
    · next hdt =>
      cases h
      refine .advance hlive hblocked ht fun d' hd' => ?_
      rw [hd] at hd'
      cases hd'
      omega

/-- **Inversion of a step**: it is one of the four. -/
theorem Step.of_step? (h : s.step? p = some s') : Step p s s' := by
  unfold step? at h
  split at h
  · simp at h
  next hc =>
  rw [Bool.not_eq_true] at hc
  split at h
  · next hdue =>
    cases h
    exact .cancelNow hc hdue
  next hdue =>
  have hlive : s.Live p := ⟨hc, by simpa using hdue⟩
  split at h
  · next hw => exact .of_await? hlive (.inl hw) h
  · next a rest hw =>
    split at h
    · next hroom =>
      cases h
      exact .begin hlive hw hroom
    · next hroom => exact .of_await? hlive (.inr (by omega)) h

theorem step?_of_cancelled (hc : s.cancelled = true) : s.step? p = none := by
  rw [step?, if_pos hc]

/-- Without a deadline nothing is cancelled. -/
theorem Step.cancelled_of_no_deadline (hp : p.deadline = none) (h : Step p s s') :
    s'.cancelled = false := by
  cases h with
  | cancelNow _ hdue => simp [cancellationDue, hp] at hdue
  | begin hlive _ _ =>
    unfold State.begin
    split <;> exact hlive.1
  | advance hlive _ _ _ => exact hlive.1
  | cancelLater _ _ _ hd _ => simp [hp] at hd

/-! ## The end of a run -/

theorem finish_of_step? (h : s.step? p = some s') : s.finish p = s'.finish p := by
  rw [finish]
  split
  · next hnone => rw [h] at hnone; cases hnone
  · next hsome => rw [h] at hsome; cases hsome; rfl

theorem finish_of_done (h : s.step? p = none) : s.finish p = s := by
  rw [finish]
  split
  · rfl
  · next hsome => rw [h] at hsome; cases hsome

/-- What every step keeps holds at the end. -/
theorem finish_induction {P : State α → Prop} (hstep : ∀ s s', P s → Step p s s' → P s')
    (s : State α) (h : P s) : P (s.finish p) := by
  induction s using State.finish.induct (p := p) with
  | case1 s hdone =>
    rw [finish_of_done hdone]
    exact h
  | case2 s s' hs ih =>
    rw [finish_of_step? hs]
    exact ih (hstep s s' h (.of_step? hs))

theorem step?_finish (s : State α) : (s.finish p).step? p = none := by
  induction s using State.finish.induct (p := p) with
  | case1 s hdone =>
    rw [finish_of_done hdone]
    exact hdone
  | case2 s s' hs ih =>
    rw [finish_of_step? hs]
    exact ih

/-! ## Time -/

theorem nextEnd?_eq_some_iff {t : Nat} :
    s.nextEnd? = some t ↔ (∃ r ∈ s.running, r.2 = t) ∧ ∀ r ∈ s.running, t ≤ r.2 := by
  rw [nextEnd?, List.min?_eq_some_iff, List.mem_map, List.forall_mem_map]

theorem now_begin (p : Plan α) (a : α) (rest : List α) (s : State α) :
    (s.begin p a rest).now = s.now := by
  unfold State.begin
  split <;> rfl

/-- What time has to do with the rest of a state. -/
structure Timed (s : State α) : Prop where
  /-- What runs does not end in the past. -/
  ends : ∀ r ∈ s.running, s.now ≤ r.2
  /-- What has happened does not lie in the future. -/
  past : ∀ e ∈ s.history, e.time ≤ s.now
  sorted : s.history.Pairwise fun e f => e.time ≤ f.time

theorem timed_initial (tasks : List α) : (initial tasks).Timed :=
  ⟨by simp [initial], by simp [initial], List.Pairwise.nil⟩

theorem Step.now_le (h : Step p s s') (hs : s.Timed) : s.now ≤ s'.now := by
  cases h with
  | cancelNow _ _ => exact Nat.le_refl _
  | begin _ _ _ => exact Nat.le_of_eq (now_begin ..).symm
  | advance _ _ ht _ =>
    obtain ⟨⟨r, hr, rfl⟩, -⟩ := nextEnd?_eq_some_iff.mp ht
    exact hs.ends r hr
  | cancelLater hlive _ _ hd _ =>
    have hdue := hlive.2
    simp only [cancellationDue, hd, decide_eq_false_iff_not] at hdue
    exact Nat.le_of_not_le hdue

/-- A step only adds to the history, and what it adds happens at the time that it leads to. -/
theorem Step.history (h : Step p s s') :
    ∃ es, s'.history = s.history ++ es ∧ ∀ e ∈ es, e.time = s'.now := by
  cases h with
  | cancelNow _ _ => exact ⟨[], by simp [cancel]⟩
  | begin _ _ _ =>
    unfold State.begin
    split <;> exact ⟨_, rfl, by simp⟩
  | advance _ _ _ _ =>
    refine ⟨_, rfl, fun e he => ?_⟩
    obtain ⟨r, _, rfl⟩ := List.mem_map.mp he
    rfl
  | cancelLater _ _ _ _ _ => exact ⟨[], by simp [cancel]⟩

theorem Step.ends (h : Step p s s') (hs : s.Timed) : ∀ r ∈ s'.running, s'.now ≤ r.2 := by
  cases h with
  | cancelNow _ _ => exact hs.ends
  | begin _ _ _ =>
    unfold State.begin
    split
    · exact hs.ends
    · exact hs.ends
    · intro r hr
      rcases List.mem_append.mp hr with hr | hr
      · exact hs.ends r hr
      · rw [List.mem_singleton.mp hr]
        exact Nat.le_add_right _ _
  | @advance t _ _ _ _ =>
    intro r hr
    have hlt : t < r.2 := by simpa using (List.mem_filter.mp hr).2
    exact Nat.le_of_lt hlt
  | cancelLater _ _ ht _ hdt =>
    intro r hr
    exact Nat.le_trans hdt ((nextEnd?_eq_some_iff.mp ht).2 r hr)

theorem Step.timed (h : Step p s s') (hs : s.Timed) : s'.Timed := by
  obtain ⟨es, hes, htime⟩ := h.history
  have hnow := h.now_le hs
  refine ⟨h.ends hs, fun e he => ?_, ?_⟩
  · rw [hes] at he
    rcases List.mem_append.mp he with he | he
    · exact Nat.le_trans (hs.past e he) hnow
    · exact Nat.le_of_eq (htime e he)
  · rw [hes]
    refine List.pairwise_append.mpr ⟨hs.sorted, ?_, fun e he f hf => ?_⟩
    · exact List.pairwise_of_forall_mem_list fun e he f hf =>
        Nat.le_of_eq (by rw [htime e he, htime f hf])
    · rw [htime f hf]
      exact Nat.le_trans (hs.past e he) hnow

theorem timed_run (p : Plan α) (tasks : List α) : (run p tasks).Timed :=
  finish_induction (fun _ _ hs h => h.timed hs) _ (timed_initial tasks)

/-- `s'` comes after `s`: time has gone on, and what has been added to the history has happened
since then. -/
def Precedes (s s' : State α) : Prop :=
  s.now ≤ s'.now ∧ ∃ es, s'.history = s.history ++ es ∧ ∀ e ∈ es, s.now ≤ e.time

theorem precedes_finish (hs : s.Timed) : s.Precedes (s.finish p) := by
  refine (finish_induction (P := fun s' => s'.Timed ∧ s.Precedes s') ?_ s
    ⟨hs, Nat.le_refl _, [], by simp⟩).2
  rintro s₁ s₂ ⟨hs₁, hnow, es, hes, htime⟩ h
  obtain ⟨fs, hfs, hftime⟩ := h.history
  have hnow' := h.now_le hs₁
  refine ⟨h.timed hs₁, Nat.le_trans hnow hnow', es ++ fs, ?_, fun e he => ?_⟩
  · rw [hfs, hes, List.append_assoc]
  · rcases List.mem_append.mp he with he | he
    · exact htime e he
    · rw [hftime e he]
      exact Nat.le_trans hnow hnow'

end State

end PublicSuffix.Schedule
