/-!
# Running tasks in a limited number of places

Tasks wait in a line. Each takes a known time and a place while it runs, except for those that
are refused, which are over as soon as their turn comes and take neither. Time is counted from 0
and moves on only when nothing can be started: then it jumps to the next instant at which
something ends. At one instant the order is

1. a cancellation, after which nothing starts or ends any more,
2. the ends of the tasks that end now, in the order of their starts,
3. the starts of waiting tasks, as long as there is a free place. A task that takes no time ends
   at once and frees its place for the next.

A run is the iteration of `step?`, one start or one jump at a time. Everything that happens is
kept in the history, and what one may want to know about a run is read off it.
-/

namespace PublicSuffix.Schedule

/-- The conditions of a run. -/
structure Plan (α : Type) where
  /-- How many tasks may run at once. -/
  places : Nat
  /-- How long a task runs, or `none` if it is refused. -/
  duration? : α → Option Nat
  /-- When the run is cancelled, if ever. -/
  deadline : Option Nat

/-- What can happen to a task. -/
inductive Change where
  | started
  | ended
  | refused
  deriving DecidableEq, Repr

/-- Something that happened. -/
structure Event (α : Type) where
  time : Nat
  change : Change
  task : α

/-- The state of a run. -/
structure State (α : Type) where
  /-- The present time. -/
  now : Nat
  /-- The tasks that have not had their turn, in order. -/
  waiting : List α
  /-- The tasks that run, in the order of their starts, each with the time at which it ends. -/
  running : List (α × Nat)
  /-- All that happened, in order. -/
  history : List (Event α)
  cancelled : Bool

namespace State

variable {α : Type}

/-- The state before anything has happened. -/
def initial (tasks : List α) : State α := ⟨0, tasks, [], [], false⟩

/-- The state after `a`, the first of the waiting tasks, has had its turn. -/
def begin (p : Plan α) (a : α) (rest : List α) (s : State α) : State α :=
  match p.duration? a with
  | none => { s with waiting := rest, history := s.history ++ [⟨s.now, .refused, a⟩] }
  | some 0 =>
    { s with
      waiting := rest
      history := s.history ++ [⟨s.now, .started, a⟩, ⟨s.now, .ended, a⟩] }
  | some (d + 1) =>
    { s with
      waiting := rest
      running := s.running ++ [(a, s.now + (d + 1))]
      history := s.history ++ [⟨s.now, .started, a⟩] }

/-- The next time at which a running task ends. -/
def nextEnd? (s : State α) : Option Nat := (s.running.map (·.2)).min?

/-- The state at time `t`, with the tasks that end by then ended. -/
def advance (t : Nat) (s : State α) : State α :=
  { s with
    now := t
    running := s.running.filter fun r => t < r.2
    history := s.history ++ (s.running.filter fun r => r.2 ≤ t).map fun r => ⟨t, .ended, r.1⟩ }

/-- The state after a cancellation at time `t`. -/
def cancel (t : Nat) (s : State α) : State α := { s with now := t, cancelled := true }

/-- The state at the next instant of interest, if there is one. -/
def await? (p : Plan α) (s : State α) : Option (State α) :=
  match s.nextEnd?, p.deadline with
  | none, _ => none
  | some t, none => some (s.advance t)
  | some t, some d => some (if d ≤ t then s.cancel d else s.advance t)

/-- Whether a cancellation is due at the present time. -/
def cancellationDue (p : Plan α) (s : State α) : Bool :=
  match p.deadline with
  | none => false
  | some d => d ≤ s.now

/-- The next state, unless the run is over. -/
def step? (p : Plan α) (s : State α) : Option (State α) :=
  if s.cancelled then none
  else if s.cancellationDue p then some (s.cancel s.now)
  else
    match s.waiting with
    | [] => s.await? p
    | a :: rest => if s.running.length < p.places then some (s.begin p a rest) else s.await? p

/-! ## The run ends -/

/-- A bound on the number of steps that a state leaves: one to start each waiting task, one to end
it, and one for a cancellation. -/
def stepsLeft (s : State α) : Nat :=
  2 * s.waiting.length + s.running.length + (if s.cancelled then 0 else 1)

theorem stepsLeft_begin_lt {p : Plan α} {s : State α} {a : α} {rest : List α}
    (h : s.waiting = a :: rest) : (s.begin p a rest).stepsLeft < s.stepsLeft := by
  unfold begin
  split
  · simp [stepsLeft, h]
  · simp [stepsLeft, h]
  · simp [stepsLeft, h]; omega

theorem stepsLeft_advance_lt {s : State α} {t : Nat} (h : s.nextEnd? = some t) :
    (s.advance t).stepsLeft < s.stepsLeft := by
  have hmem : t ∈ s.running.map (·.2) := List.min?_mem h
  obtain ⟨r, hr, rfl⟩ := List.mem_map.mp hmem
  have hlt : (s.running.filter fun q => decide (r.2 < q.2)).length < s.running.length :=
    List.length_filter_lt_length_iff_exists.mpr ⟨r, hr, by simp⟩
  exact Nat.add_lt_add_right (Nat.add_lt_add_left hlt _) _

theorem stepsLeft_cancel_lt {s : State α} (t : Nat) (h : s.cancelled = false) :
    (s.cancel t).stepsLeft < s.stepsLeft := by
  simp [stepsLeft, cancel, h]

theorem stepsLeft_await_lt {p : Plan α} {s s' : State α} (hc : s.cancelled = false)
    (h : s.await? p = some s') : s'.stepsLeft < s.stepsLeft := by
  unfold await? at h
  split at h
  · simp at h
  · next hn _ => cases h; exact stepsLeft_advance_lt hn
  · next hn _ =>
    cases h
    split
    · exact stepsLeft_cancel_lt _ hc
    · exact stepsLeft_advance_lt hn

theorem stepsLeft_step_lt {p : Plan α} {s s' : State α} (h : s.step? p = some s') :
    s'.stepsLeft < s.stepsLeft := by
  unfold step? at h
  split at h
  · simp at h
  next hc =>
  have hc : s.cancelled = false := by simpa using hc
  split at h
  · cases h; exact stepsLeft_cancel_lt _ hc
  split at h
  · exact stepsLeft_await_lt hc h
  next hw =>
  split at h
  · cases h; exact stepsLeft_begin_lt hw
  · exact stepsLeft_await_lt hc h

/-- The state at the end of the run. -/
def finish (p : Plan α) (s : State α) : State α :=
  match _h : s.step? p with
  | none => s
  | some s' => s'.finish p
termination_by s.stepsLeft
decreasing_by exact stepsLeft_step_lt _h

/-! ## Reading a run -/

/-- The tasks that are over, in the order in which they became so. -/
def completed (s : State α) : List α :=
  s.history.filterMap fun e =>
    match e.change with
    | .started => none
    | .ended | .refused => some e.task

/-- The tasks that were started, with the times of their starts, in order. -/
def starts (s : State α) : List (α × Nat) :=
  s.history.filterMap fun e =>
    match e.change with
    | .started => some (e.task, e.time)
    | .ended | .refused => none

end State

/-- The number of running tasks after a change. -/
def Change.apply (running : Nat) : Change → Nat
  | .started => running + 1
  | .ended => running - 1
  | .refused => running

/-- The greatest number of tasks that run at once in a history that begins with `running` ones. -/
def peakFrom {α : Type} (running : Nat) : List (Event α) → Nat
  | [] => running
  | e :: es => max running (peakFrom (e.change.apply running) es)

/-- The greatest number of tasks that ran at once. -/
def State.peak {α : Type} (s : State α) : Nat := peakFrom 0 s.history

/-- The run of tasks to its end. -/
def run {α : Type} (p : Plan α) (tasks : List α) : State α := (State.initial tasks).finish p

end PublicSuffix.Schedule
