import PublicSuffix.Proofs.Schedule.Steps

/-!
# Runs of other tasks

A run looks at its tasks only to see how long they take. If every task is replaced by one that takes
as long, the run takes the same course with the new tasks (`run_map`). What replaces the tasks need
not be injective.

`step?_map` says this of one step, and a run is finished by induction on its steps.
-/

namespace PublicSuffix.Schedule

variable {α β : Type}

/-- The conditions for tasks that stand for others. -/
def Plan.comap (g : α → β) (p : Plan β) : Plan α where
  places := p.places
  duration? a := p.duration? (g a)
  deadline := p.deadline

/-- What happened to the task that another one stands for. -/
def Event.map (g : α → β) (e : Event α) : Event β := ⟨e.time, e.change, g e.task⟩

namespace State

/-- The state with every task replaced. -/
def map (g : α → β) (s : State α) : State β where
  now := s.now
  waiting := s.waiting.map g
  running := s.running.map (Prod.map g id)
  history := s.history.map (Event.map g)
  cancelled := s.cancelled

variable (g : α → β) (p : Plan β) (s : State α)

/-! ## One step -/

theorem initial_map (tasks : List α) : initial (tasks.map g) = (initial tasks).map g := rfl

theorem nextEnd?_map : (s.map g).nextEnd? = s.nextEnd? := by
  rw [nextEnd?, nextEnd?, map, List.map_map]
  rfl

theorem cancel_map (t : Nat) : (s.map g).cancel t = (s.cancel t).map g := rfl

theorem advance_map (t : Nat) : (s.map g).advance t = (s.advance t).map g := by
  simp only [advance, map, List.filter_map, List.map_append, List.map_map]
  rfl

theorem begin_map (a : α) (rest : List α) :
    (s.map g).begin p (g a) (rest.map g) = (s.begin (p.comap g) a rest).map g := by
  have hduration : (p.comap g).duration? a = p.duration? (g a) := rfl
  rw [begin, begin, hduration]
  split
  · simp [map, Event.map]
  · simp [map, Event.map]
  · simp [map, Event.map]

theorem await?_map : (s.map g).await? p = (s.await? (p.comap g)).map (map g) := by
  have hdeadline : (p.comap g).deadline = p.deadline := rfl
  rw [await?, await?, nextEnd?_map, hdeadline]
  split
  · rfl
  · rw [advance_map]
    rfl
  · rw [advance_map, cancel_map, ← apply_ite (map g)]
    rfl

theorem step?_map : (s.map g).step? p = (s.step? (p.comap g)).map (map g) := by
  have hcancelled : (s.map g).cancelled = s.cancelled := rfl
  have hdue : (s.map g).cancellationDue p = s.cancellationDue (p.comap g) := rfl
  have hlength : (s.map g).running.length = s.running.length := List.length_map _
  have hplaces : (p.comap g).places = p.places := rfl
  have hwaiting : (s.map g).waiting = s.waiting.map g := rfl
  rw [step?, step?, hcancelled, hdue, hwaiting, hlength, hplaces, await?_map]
  split
  · rfl
  split
  · rfl
  cases s.waiting with
  | nil => rfl
  | cons a rest =>
    rw [List.map_cons]
    dsimp only
    rw [begin_map]
    split <;> rfl

/-! ## A whole run -/

theorem finish_map : (s.map g).finish p = (s.finish (p.comap g)).map g := by
  induction s using State.finish.induct (p := p.comap g) with
  | case1 s hdone =>
    have hdone' : (s.map g).step? p = none := by rw [step?_map, hdone, Option.map_none]
    rw [finish_of_done hdone, finish_of_done hdone']
  | case2 s s' hs ih =>
    have hs' : (s.map g).step? p = some (s'.map g) := by rw [step?_map, hs, Option.map_some]
    rw [finish_of_step? hs, finish_of_step? hs', ih]

theorem completed_map : (s.map g).completed = s.completed.map g := by
  rw [completed, completed, map, List.filterMap_map, List.map_filterMap]
  congr 1
  funext e
  obtain ⟨t, change, a⟩ := e
  cases change <;> rfl

theorem starts_map : (s.map g).starts = s.starts.map (Prod.map g id) := by
  rw [starts, starts, map, List.filterMap_map, List.map_filterMap]
  congr 1
  funext e
  obtain ⟨t, change, a⟩ := e
  cases change <;> rfl

end State

theorem peakFrom_map (g : α → β) (running : Nat) (es : List (Event α)) :
    peakFrom running (es.map (Event.map g)) = peakFrom running es := by
  induction es generalizing running with
  | nil => rfl
  | cons e es ih =>
    rw [List.map_cons, peakFrom, peakFrom, ih]
    rfl

theorem State.peak_map (g : α → β) (s : State α) : (s.map g).peak = s.peak :=
  peakFrom_map g 0 s.history

/-- **A run does not look into its tasks** beyond the time that they take. -/
theorem run_map (g : α → β) (p : Plan β) (tasks : List α) :
    run p (tasks.map g) = (run (p.comap g) tasks).map g := by
  rw [run, State.initial_map, State.finish_map]
  rfl

end PublicSuffix.Schedule
