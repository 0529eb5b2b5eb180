import PublicSuffix.Proofs.Schedule.Completion

/-!
# Turns and places

What holds of every state that a run comes through (`Reachable`), not only of its last one. The
tasks have their turns in the order of the line, and no task is passed over (`begun_append_waiting`).
There are never more running tasks than places, not even for the instant that a task of no duration
needs (`Reachable.filled`). And time does not move on while something waits and a place is free
(`places_full_of_now_lt`).
-/

namespace PublicSuffix.Schedule

/-- Whether a task is not refused. -/
def Plan.accepts {α : Type} (p : Plan α) (a : α) : Bool := (p.duration? a).isSome

namespace State

variable {α : Type} {p : Plan α} {s s' : State α} {tasks : List α}

/-! ## Reachable states -/

/-- The states that a run of the tasks comes through. -/
inductive Reachable (p : Plan α) (tasks : List α) : State α → Prop where
  | start : Reachable p tasks (initial tasks)
  | step {s s' : State α} (h : Reachable p tasks s) (hs : s.step? p = some s') :
    Reachable p tasks s'

/-- What holds at the start and is kept by every step holds in all reachable states. -/
theorem Reachable.keeps {P : State α → Prop} (h : Reachable p tasks s) (hstart : P (initial tasks))
    (hstep : ∀ s s', P s → Step p s s' → P s') : P s := by
  induction h with
  | start => exact hstart
  | step _ hs ih => exact hstep _ _ ih (.of_step? hs)

theorem Reachable.finish (h : Reachable p tasks s) : Reachable p tasks (s.finish p) := by
  induction s using State.finish.induct (p := p) with
  | case1 s hdone =>
    rw [finish_of_done hdone]
    exact h
  | case2 s s' hs ih =>
    rw [finish_of_step? hs]
    exact ih (h.step hs)

theorem reachable_run (p : Plan α) (tasks : List α) : Reachable p tasks (run p tasks) :=
  Reachable.start.finish

theorem Reachable.timed (h : Reachable p tasks s) : s.Timed :=
  h.keeps (timed_initial tasks) fun _ _ hs hstep => hstep.timed hs

theorem Reachable.accounted (h : Reachable p tasks s) : s.Accounted tasks :=
  h.keeps (accounted_initial tasks) fun _ _ hs hstep => hstep.accounted hs

/-! ## The order of the turns -/

/-- The tasks that have had their turn, in order: those that were started or refused. -/
def begun (s : State α) : List α :=
  s.history.filterMap fun e =>
    match e.change with
    | .started | .refused => some e.task
    | .ended => none

theorem begun_begin (p : Plan α) (a : α) (rest : List α) (s : State α) :
    (s.begin p a rest).begun = s.begun ++ [a] := by
  unfold State.begin
  split <;> simp [begun]

theorem begun_advance (t : Nat) (s : State α) : (s.advance t).begun = s.begun := by
  simp [begun, advance]

theorem waiting_begin (p : Plan α) (a : α) (rest : List α) (s : State α) :
    (s.begin p a rest).waiting = rest := by
  unfold State.begin
  split <;> rfl

/-- A turn moves a task from the head of the line to the end of those that have begun. -/
theorem Step.begun_append_waiting (h : Step p s s') :
    s'.begun ++ s'.waiting = s.begun ++ s.waiting := by
  cases h with
  | cancelNow _ _ => rfl
  | begin _ hw _ => rw [begun_begin, waiting_begin, hw, List.append_assoc, List.singleton_append]
  | advance _ _ _ _ =>
    rw [begun_advance]
    rfl
  | cancelLater _ _ _ _ _ => rfl

/-- **The line is served in order**: those that have had their turn and those that wait are the
tasks as they were given. -/
theorem begun_append_waiting (h : Reachable p tasks s) : s.begun ++ s.waiting = tasks :=
  h.keeps (P := fun s => s.begun ++ s.waiting = tasks) rfl
    fun _ _ hs hstep => hstep.begun_append_waiting.trans hs

/-! ## Starts -/

theorem starts_begin (p : Plan α) (a : α) (rest : List α) (s : State α) :
    (s.begin p a rest).starts = s.starts ++ if p.accepts a then [(a, s.now)] else [] := by
  unfold State.begin
  split
  · next h => simp [starts, Plan.accepts, h]
  · next h => simp [starts, Plan.accepts, h]
  · next h => simp [starts, Plan.accepts, h]

theorem starts_advance (t : Nat) (s : State α) : (s.advance t).starts = s.starts := by
  simp [starts, advance]

theorem Step.map_fst_starts (h : Step p s s')
    (hs : s.starts.map (·.1) = s.begun.filter p.accepts) :
    s'.starts.map (·.1) = s'.begun.filter p.accepts := by
  cases h with
  | cancelNow _ _ => exact hs
  | @begin a rest _ _ _ =>
    rw [starts_begin, begun_begin, List.map_append, List.filter_append, hs]
    cases ha : p.accepts a <;> simp [ha]
  | advance _ _ _ _ =>
    rw [starts_advance, begun_advance]
    exact hs
  | cancelLater _ _ _ _ _ => exact hs

/-- What is started is what has had its turn and is not refused, in the order of the turns. -/
theorem map_fst_starts (h : Reachable p tasks s) :
    s.starts.map (·.1) = s.begun.filter p.accepts :=
  h.keeps (P := fun s => s.starts.map (·.1) = s.begun.filter p.accepts) rfl
    fun _ _ hs hstep => hstep.map_fst_starts hs

theorem accepts_of_mem_starts (h : Reachable p tasks s) {x : α × Nat} (hx : x ∈ s.starts) :
    p.accepts x.1 = true := by
  have hmem : x.1 ∈ s.starts.map (·.1) := List.mem_map_of_mem hx
  rw [map_fst_starts h] at hmem
  exact (List.mem_filter.mp hmem).2

theorem mem_of_mem_starts (h : Reachable p tasks s) {x : α × Nat} (hx : x ∈ s.starts) :
    x.1 ∈ tasks := by
  have hmem : x.1 ∈ s.starts.map (·.1) := List.mem_map_of_mem hx
  rw [map_fst_starts h] at hmem
  rw [← begun_append_waiting h]
  exact List.mem_append_left _ (List.mem_filter.mp hmem).1

theorem pairwise_starts (h : Reachable p tasks s) :
    s.starts.Pairwise fun x y => x.2 ≤ y.2 := by
  refine h.timed.sorted.filterMap _ fun e f hef x hx y hy => ?_
  cases he : e.change <;> simp only [he, Option.some.injEq, reduceCtorEq] at hx
  cases hf : f.change <;> simp only [hf, Option.some.injEq, reduceCtorEq] at hy
  subst hx hy
  exact hef

/-! ## Places -/

/-- The number of running tasks after a history that begins with `running` ones. -/
def runningAfter (running : Nat) (es : List (Event α)) : Nat :=
  es.foldl (fun n e => e.change.apply n) running

theorem runningAfter_append (n : Nat) (es fs : List (Event α)) :
    runningAfter n (es ++ fs) = runningAfter (runningAfter n es) fs := List.foldl_append

theorem le_peakFrom (n : Nat) (es : List (Event α)) : n ≤ peakFrom n es := by
  cases es with
  | nil => exact Nat.le_refl _
  | cons _ _ => exact Nat.le_max_left _ _

theorem peakFrom_append (n : Nat) (es fs : List (Event α)) :
    peakFrom n (es ++ fs) = max (peakFrom n es) (peakFrom (runningAfter n es) fs) := by
  induction es generalizing n with
  | nil => exact (Nat.max_eq_right (le_peakFrom n fs)).symm
  | cons e es ih =>
    have hrest := ih (e.change.apply n)
    rw [List.cons_append, peakFrom, hrest, ← Nat.max_assoc]
    rfl

/-- Ends give places back, one each, and take none. -/
theorem runningAfter_ended {n : Nat} {es : List (Event α)} (h : ∀ e ∈ es, e.change = .ended) :
    runningAfter n es = n - es.length ∧ peakFrom n es = n := by
  induction es generalizing n with
  | nil => exact ⟨rfl, rfl⟩
  | cons e es ih =>
    have he : e.change.apply n = n - 1 := by rw [h e List.mem_cons_self, Change.apply]
    obtain ⟨hafter, hpeak⟩ := ih (n := n - 1) fun f hf => h f (List.mem_cons_of_mem _ hf)
    constructor
    · have hcons : runningAfter n (e :: es) = runningAfter (e.change.apply n) es := rfl
      rw [hcons, he, hafter, List.length_cons]
      omega
    · rw [peakFrom, he, hpeak]
      omega

/-- The places are not exceeded, now and so far, and the history tells how many are taken. -/
structure Filled (p : Plan α) (s : State α) : Prop where
  counted : runningAfter 0 s.history = s.running.length
  room : s.running.length ≤ p.places
  peak : s.peak ≤ p.places

/-- What happens next is counted from the tasks that run now. -/
theorem Filled.append (es : List (Event α)) (hs : s.Filled p)
    (hhistory : s'.history = s.history ++ es)
    (hcounted : runningAfter s.running.length es = s'.running.length)
    (hroom : s'.running.length ≤ p.places) (hpeak : peakFrom s.running.length es ≤ p.places) :
    s'.Filled p := by
  refine ⟨?_, hroom, ?_⟩
  · rw [hhistory, runningAfter_append, hs.counted, hcounted]
  · rw [State.peak, hhistory, peakFrom_append, hs.counted]
    exact Nat.max_le.mpr ⟨hs.peak, hpeak⟩

theorem Filled.begin {a : α} {rest : List α} (hs : s.Filled p)
    (hroom : s.running.length < p.places) : (s.begin p a rest).Filled p := by
  unfold State.begin
  split
  · refine hs.append [⟨s.now, .refused, a⟩] rfl rfl hs.room ?_
    simp only [peakFrom, Change.apply]
    omega
  · -- for an instant the task takes the place that is free
    refine hs.append [⟨s.now, .started, a⟩, ⟨s.now, .ended, a⟩] rfl rfl hs.room ?_
    simp only [peakFrom, Change.apply]
    omega
  · refine hs.append [⟨s.now, .started, a⟩] rfl ?_ ?_ ?_
    · simp [runningAfter, Change.apply]
    · simp only [List.length_append, List.length_singleton]
      omega
    · simp only [peakFrom, Change.apply]
      omega

theorem Filled.advance (t : Nat) (hs : s.Filled p) : (s.advance t).Filled p := by
  let es : List (Event α) := (s.running.filter fun r => r.2 ≤ t).map fun r => ⟨t, .ended, r.1⟩
  have hended : ∀ e ∈ es, e.change = .ended := by
    intro e he
    obtain ⟨r, _, rfl⟩ := List.mem_map.mp he
    rfl
  have hsplit : s.running.length = (s.running.filter fun r => r.2 ≤ t).length +
      (s.running.filter fun r => t < r.2).length := by
    rw [List.length_eq_length_filter_add fun r : α × Nat => decide (r.2 ≤ t)]
    simp only [← decide_not, Nat.not_le]
  obtain ⟨hafter, hpeak⟩ := runningAfter_ended (n := s.running.length) hended
  refine hs.append es rfl ?_ ?_ ?_
  · have hlength : (s.advance t).running.length = (s.running.filter fun r => t < r.2).length := rfl
    rw [hafter, hlength, List.length_map]
    omega
  · exact Nat.le_trans (List.length_filter_le _ _) hs.room
  · rw [hpeak]
    exact hs.room

theorem Reachable.filled (h : Reachable p tasks s) : s.Filled p := by
  refine h.keeps ⟨rfl, Nat.zero_le _, Nat.zero_le _⟩ fun s s' hs hstep => ?_
  cases hstep with
  | cancelNow _ _ => exact ⟨hs.counted, hs.room, hs.peak⟩
  | begin _ _ hroom => exact hs.begin hroom
  | advance _ _ _ _ => exact hs.advance _
  | cancelLater _ _ _ _ _ => exact ⟨hs.counted, hs.room, hs.peak⟩

/-! ## When time moves on -/

/-- Time moves on only where nothing can be started. -/
theorem Step.blocked_of_now_lt (h : Step p s s') (hnow : s.now < s'.now) : s.Blocked p := by
  cases h with
  | cancelNow _ _ => exact absurd hnow (Nat.lt_irrefl _)
  | begin _ _ _ =>
    rw [now_begin] at hnow
    exact absurd hnow (Nat.lt_irrefl _)
  | advance _ hblocked _ _ => exact hblocked
  | cancelLater _ hblocked _ _ _ => exact hblocked

/-- **No place is wasted**: while something waits, time moves on only with all places taken. -/
theorem places_full_of_now_lt (h : Reachable p tasks s) (hstep : s.step? p = some s')
    (hnow : s.now < s'.now) (hwaiting : s.waiting ≠ []) : s.running.length = p.places := by
  rcases (Step.of_step? hstep).blocked_of_now_lt hnow with hnone | hfull
  · exact absurd hnone hwaiting
  · exact Nat.le_antisymm h.filled.room hfull

end State

end PublicSuffix.Schedule
