import PublicSuffix.Proofs.Online.Sequential
import PublicSuffix.Proofs.Provenance.Decision
import PublicSuffix.Proofs.Schedule.Rounds

/-!
# The queries of a verification

The schedule of `Proofs/Schedule` at work on the lookups of a list. `orderly_of_reachable` says what
holds at every moment of a verification: which lookups are where, which names have been asked for
and when, and that no place stays empty while a query could be sent. `verify_ends` says that a
verification comes to its end and how long that takes, however slow the resolver is: the queries
go out in rounds, of which none lasts longer than the timeout.

Both speak of the suffixes as they are collected (`collected`) and of the names that belong to them
(`recordsName?`). A lookup carries what is needed for that (`map_suffix_tasks`,
`name?_of_mem_tasks`).
-/

namespace PublicSuffix.Online

open Schedule.State (Reachable)

variable {resolver : Resolver} {timeout : Nat} {settings : Settings} {deadline : Option Nat}
  {l : SuffixList} {s : Schedule.State Task}

/-! ## The lookups of a list -/

/-- The suffixes whose records are looked up, in the order in which they are collected. -/
def collected (l : SuffixList) : List (Located Suffix) :=
  (entities l).flatMap fun e => select Block.suffix? e.below

/-- The name at which the records of a suffix are, if it can be built. -/
def recordsName? (s : Located Suffix) : Option Name := (s.value.domain.child "_psl").toOption

theorem filterMap_checksOf {α : Type} {f : Check → Option α} (e : Located Block)
    (hf : ∀ w, f (.wildcard w) = none) :
    (checksOf e).filterMap f = (select Block.suffix? e.below).filterMap (f ∘ .records) := by
  have hwildcards : ((select Block.wildcard? e.below).map Check.wildcard).filterMap f = [] := by
    rw [List.filterMap_map]
    exact List.filterMap_eq_nil_iff.mpr fun w _ => hf w
  rw [checksOf, List.filterMap_append, hwildcards, List.append_nil, List.filterMap_map]

/-- The suffix of a check of records. -/
def Check.suffix? : Check → Option (Located Suffix)
  | .records s => some s
  | .wildcard _ => none

theorem collected_eq (l : SuffixList) :
    collected l = ((entities l).flatMap checksOf).filterMap Check.suffix? := by
  rw [List.filterMap_flatMap, collected]
  congr 1
  funext e
  rw [filterMap_checksOf e fun _ => rfl]
  exact List.filterMap_some.symm

theorem map_suffix_tasks (resolver : Resolver) (timeout : Nat) (l : SuffixList) :
    (tasks resolver timeout l).map Task.suffix = collected l := by
  rw [collected_eq, ← map_fst_checks, tasks_eq, List.map_filterMap, List.filterMap_map]
  refine List.filterMap_congr fun c _ => ?_
  obtain ⟨check, n⟩ := c
  cases check <;> rfl

theorem query_of_mem_tasks {t : Task} (h : t ∈ tasks resolver timeout l) :
    t.query = Query.about resolver timeout t.suffix.value.domain := by
  obtain ⟨c, _, hc⟩ := List.mem_filterMap.mp h
  obtain ⟨check, n⟩ := c
  cases check with
  | records s =>
    cases hc
    rfl
  | wildcard w => cases hc

theorem duration_ofReply_le (timeout : Nat) (name : Name) (reply : Reply) :
    (Query.ofReply timeout name reply).duration ≤ timeout := by
  unfold Query.ofReply
  split
  · split
    · next h => exact h
    · exact Nat.le_refl _
  · exact Nat.le_refl _

theorem name?_of_mem_tasks {t : Task} (h : t ∈ tasks resolver timeout l) :
    t.name? = recordsName? t.suffix := by
  rw [Task.name?, query_of_mem_tasks h, Query.about, Query.nameFor, recordsName?, Query.label]
  cases t.suffix.value.domain.child "_psl" with
  | error e => rfl
  | ok name => exact congrArg some (Query.name_ofReply _ _ _)

theorem duration_le_of_mem_tasks {t : Task} (h : t ∈ tasks resolver timeout l) {d : Nat}
    (hd : t.duration? = some d) : d ≤ timeout := by
  rw [Task.duration?, query_of_mem_tasks h, Query.about] at hd
  cases hname : Query.nameFor t.suffix.value.domain with
  | error e => simp [hname, bind, Except.bind] at hd
  | ok name =>
    simp only [hname, bind, Except.bind, pure, Except.pure, Option.some.injEq] at hd
    rw [← hd]
    exact duration_ofReply_le _ _ _

theorem accepts_plan (t : Task) : (plan settings deadline).accepts t = t.name?.isSome := by
  have hduration : (plan settings deadline).accepts t = t.duration?.isSome := rfl
  rw [hduration, Task.duration?, Task.name?]
  cases t.query <;> rfl

/-! ## The queries of a state -/

/-- The names asked for so far, with the times of the questions. -/
def queriesOf (s : Schedule.State Task) : List (Name × Nat) :=
  s.starts.filterMap fun x => x.1.name?.map (·, x.2)

/-- The suffixes that have had their turn and those that have not are the collected ones. -/
theorem turns (h : Reachable (plan settings deadline) (tasks resolver timeout l) s) :
    s.begun.map (·.suffix) ++ s.waiting.map (·.suffix) = collected l := by
  rw [← List.map_append, Schedule.State.begun_append_waiting h, map_suffix_tasks]

/-- The names asked for are those of the suffixes that have had their turn, in order. -/
theorem names_queriesOf (h : Reachable (plan settings deadline) (tasks resolver timeout l) s) :
    (queriesOf s).map (·.1) = (s.begun.map (·.suffix)).filterMap recordsName? := by
  have hnames : (queriesOf s).map (·.1) = (s.starts.map (·.1)).filterMap Task.name? := by
    rw [queriesOf, List.map_filterMap, List.filterMap_map]
    refine List.filterMap_congr fun x _ => ?_
    rw [Option.map_map]
    exact Option.map_id'
  rw [hnames, Schedule.State.map_fst_starts h, List.filterMap_filter, List.filterMap_map]
  refine List.filterMap_congr fun t ht => ?_
  have hmem : t ∈ tasks resolver timeout l := by
    rw [← Schedule.State.begun_append_waiting h]
    exact List.mem_append_left _ ht
  rw [accepts_plan, Function.comp, ← name?_of_mem_tasks hmem]
  cases t.name? <;> rfl

/-- Every start is a query. -/
theorem times_queriesOf (h : Reachable (plan settings deadline) (tasks resolver timeout l) s) :
    (queriesOf s).map (·.2) = s.starts.map (·.2) := by
  rw [queriesOf, List.map_filterMap, ← List.filterMap_eq_map]
  refine List.filterMap_congr fun x hx => ?_
  have hsent := Schedule.State.accepts_of_mem_starts h hx
  rw [accepts_plan] at hsent
  obtain ⟨name, hname⟩ := Option.isSome_iff_exists.mp hsent
  rw [hname]
  rfl

theorem pairwise_queriesOf (h : Reachable (plan settings deadline) (tasks resolver timeout l) s) :
    (queriesOf s).Pairwise fun q r => q.2 ≤ r.2 := by
  have htimes : ((queriesOf s).map (·.2)).Pairwise (· ≤ ·) := by
    rw [times_queriesOf h]
    exact List.pairwise_map.mpr (Schedule.State.pairwise_starts h)
  exact List.pairwise_map.mp htimes

/-! ## Every moment of a verification -/

/-- What holds of the state `s` of a verification at every moment. -/
structure Orderly (resolver : Resolver) (settings : Settings) (deadline : Option Nat)
    (l : SuffixList) (s : Schedule.State Task) : Prop where
  /-- There are no more running queries than places, -/
  room : s.running.length ≤ max 1 settings.maxQueries
  /-- and there never were, not even for the instant that an immediate answer takes. -/
  peak : s.peak ≤ max 1 settings.maxQueries
  /-- Every lookup waits, runs or is over, -/
  accounted : (s.waiting ++ s.running.map (·.1) ++ s.completed).Perm
    (tasks resolver settings.timeout l)
  /-- and only one of these. -/
  apart : (s.waiting ++ s.running.map (·.1) ++ s.completed).Nodup
  /-- What has been asked for are the names that can be built of a first part of the collected
  suffixes, once and in their order; the others wait. -/
  asked : ∃ n, (queriesOf s).map (·.1) = ((collected l).take n).filterMap recordsName? ∧
    s.waiting.map (·.suffix) = (collected l).drop n
  /-- What runs has been asked for. -/
  sent : (s.running.map (·.1)).Sublist (s.starts.map (·.1))
  times : (queriesOf s).Pairwise fun q r => q.2 ≤ r.2
  /-- Time moves on only with all places taken, if a query could be sent. -/
  busy : ∀ s', s.step? (plan settings deadline) = some s' → s.now < s'.now →
    (∃ t ∈ s.waiting, (recordsName? t.suffix).isSome = true) →
      s.running.length = max 1 settings.maxQueries

/-- **Every moment of a verification** is orderly. -/
theorem orderly_of_reachable (resolver : Resolver) (settings : Settings) (deadline : Option Nat)
    (l : SuffixList) (s : Schedule.State Task)
    (h : Reachable (plan settings deadline) (tasks resolver settings.timeout l) s) :
    Orderly resolver settings deadline l s := by
  have hall : (s.waiting ++ s.running.map (·.1) ++ s.completed).Perm
      (tasks resolver settings.timeout l) := by
    refine List.Perm.trans ?_ h.accounted
    rw [List.append_assoc]
    exact List.perm_append_comm.trans (List.perm_append_comm.append_right _)
  have hnodup : (tasks resolver settings.timeout l).Nodup := nodup_of_pairwise_lt pairwise_tasks
  have hturns := turns h
  refine ⟨h.filled.room, h.filled.peak, hall, hall.nodup_iff.mpr hnodup,
    ⟨s.begun.length, ?_, ?_⟩, ?_, pairwise_queriesOf h, fun s' hs' hnow hwaiting => ?_⟩
  · rw [names_queriesOf h, ← hturns, List.take_append_of_le_length (by simp),
      List.take_of_length_le (by simp)]
  · rw [← hturns, List.drop_append, List.drop_of_length_le (by simp)]
    simp
  · have hends := (Schedule.State.running_sublist_ends h).map Prod.fst
    rwa [Schedule.State.ends, List.map_map] at hends
  · obtain ⟨t, ht, _⟩ := hwaiting
    exact Schedule.State.places_full_of_now_lt h hs' hnow (List.ne_nil_of_mem ht)

/-- One query at a time. -/
def onePlace : Settings where
  timeout := 10
  maxQueries := 1

/-- The first lookup of the small list takes the place, and the second one waits. -/
theorem orderly_one_place : ∃ s,
    (Schedule.State.initial (tasks slow 10 small)).step? (plan onePlace none) = some s ∧
    Reachable (plan onePlace none) (tasks slow 10 small) s ∧
    s.running.length = 1 ∧ s.waiting.length = 1 ∧ Orderly slow onePlace none small s := by
  have hreach : Reachable (plan onePlace none) (tasks slow 10 small) _ := Reachable.start.step rfl
  refine ⟨_, rfl, hreach, by decide +kernel, by decide +kernel, ?_⟩
  exact orderly_of_reachable slow onePlace none small _ hreach

/-! ## The end of a verification -/

theorem inRounds_of_reachable
    (h : Reachable (plan settings deadline) (tasks resolver settings.timeout l) s) :
    s.InRounds (plan settings deadline) settings.timeout :=
  h.inRounds (places_pos settings deadline) fun _ ht _ hd => duration_le_of_mem_tasks ht hd

theorem start_of_queriesOf
    (h : Reachable (plan settings deadline) (tasks resolver timeout l) s) {k : Nat}
    {q : Name × Nat} (hq : (queriesOf s)[k]? = some q) : ∃ x, s.starts[k]? = some x ∧ x.2 = q.2 := by
  have htime : (s.starts.map (·.2))[k]? = some q.2 := by
    rw [← times_queriesOf h, List.getElem?_map, hq]
    rfl
  rw [List.getElem?_map, Option.map_eq_some_iff] at htime
  exact htime

/-- Unless the run is cancelled, every suffix has had its turn at the end. -/
theorem begun_run {expected : Option ChangeId}
    (h : (verify resolver settings expected deadline l).cancelled = false) :
    (Schedule.run (plan settings deadline) (tasks resolver settings.timeout l)).begun.map
      (·.suffix) = collected l := by
  have hwaiting := (Schedule.State.idle_of_done (places_pos settings deadline) h
    (Schedule.State.step?_finish _)).1
  rw [← turns (Schedule.State.reachable_run _ _), hwaiting, List.map_nil, List.append_nil]

/-- **No resolver hangs a verification.** Without a deadline it comes to an end at which every lookup
is over and every name that can be built has been asked for. With `c` places, query `k` is sent no
later than `k / c` timeouts after the start, and all is over after one timeout for every `c` queries
or part of them. -/
theorem verify_ends (resolver : Resolver) (settings : Settings) (expected : Option ChangeId)
    (l : SuffixList) :
    (verify resolver settings expected none l).cancelled = false ∧
    (∃ s, Reachable (plan settings none) (tasks resolver settings.timeout l) s ∧
      s.step? (plan settings none) = none ∧
      s.completed.Perm (tasks resolver settings.timeout l) ∧
      s.now = (verify resolver settings expected none l).elapsed) ∧
    (verify resolver settings expected none l).queries.map (·.1) =
      (collected l).filterMap recordsName? ∧
    (∀ k q, (verify resolver settings expected none l).queries[k]? = some q →
      q.2 ≤ k / max 1 settings.maxQueries * settings.timeout) ∧
    (verify resolver settings expected none l).elapsed ≤
      ((collected l).filterMap recordsName?).length ⌈/⌉ max 1 settings.maxQueries *
        settings.timeout := by
  let run := Schedule.run (plan settings none) (tasks resolver settings.timeout l)
  have hreach : Reachable (plan settings none) (tasks resolver settings.timeout l) run :=
    Schedule.State.reachable_run _ _
  have hfree := cancelled_of_no_deadline resolver settings expected l
  have hdone : run.step? (plan settings none) = none := Schedule.State.step?_finish _
  have hnames : (queriesOf run).map (·.1) = (collected l).filterMap recordsName? := by
    rw [names_queriesOf hreach, begun_run hfree]
  have hcount : run.starts.length = ((collected l).filterMap recordsName?).length := by
    rw [← hnames, List.length_map, ← List.length_map (f := (·.2)), ← times_queriesOf hreach,
      List.length_map]
  have hrounds := inRounds_of_reachable hreach
  refine ⟨hfree, ⟨run, hreach, hdone, completed_perm hfree, rfl⟩, hnames, fun k q hq => ?_, ?_⟩
  · obtain ⟨x, hx, hxq⟩ := start_of_queriesOf hreach hq
    rw [← hxq]
    exact hrounds.starts k x hx
  · rw [← hcount]
    exact hrounds.elapsed

/-- With one place, the second query waits for the answer to the first and is in time. -/
theorem verify_ends_one_place : ∃ q,
    (verify slow onePlace (some 7) none small).queries[1]? = some q ∧ q.2 = 8 ∧
    q.2 ≤ 1 / max 1 1 * 10 ∧
    (verify slow onePlace (some 7) none small).elapsed = 11 ∧
    (verify slow onePlace (some 7) none small).elapsed ≤
      ((collected small).filterMap recordsName?).length ⌈/⌉ 1 * 10 := by
  have hsecond : ((verify slow onePlace (some 7) none small).queries[1]?).map (·.2) = some 8 := by
    decide +kernel
  obtain ⟨q, hq, htime⟩ := Option.map_eq_some_iff.mp hsecond
  obtain ⟨-, -, -, hrounds, helapsed⟩ := verify_ends slow onePlace (some 7) small
  exact ⟨q, hq, htime, hrounds 1 q hq, by decide +kernel, helapsed⟩

end PublicSuffix.Online
