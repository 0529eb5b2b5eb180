import PublicSuffix.Contact.Exemptions
import PublicSuffix.Progress

/-!
# Verification through the network

The lookups of the collected suffixes run as tasks of a schedule, and whatever order they end in,
the report has its violations in the order in which the checks were collected. A cancellation
drops what has not ended; the rest of the report is as without it.
-/

namespace PublicSuffix

/-- The options under which a list is validated. -/
structure Settings where
  /-- The entities that need no maintainer. -/
  exemptions : Exemptions := .empty
  /-- How long to wait for the answer to one query, in milliseconds. -/
  timeout : Nat := 10000
  /-- How many queries may run at the same time. -/
  maxQueries : Nat := 16

/-- The number of places for running queries. There is always one. -/
def Settings.places (s : Settings) : Nat := max 1 s.maxQueries

namespace Online

/-- The outcome of a verification. -/
structure Report where
  /-- The objections, in the order in which their checks were collected. -/
  violations : List Violation
  cancelled : Bool
  /-- The names asked for, with the times of the questions, in order. -/
  queries : List (Name × Nat)
  /-- The time at the end. -/
  elapsed : Nat
  /-- The greatest number of queries that ran at once. -/
  peak : Nat
  messages : List Log.Message

/-- The objections in the order of their numbers. -/
def inOrder (found : List (Nat × Violation)) : List Violation :=
  (found.mergeSort fun a b => a.1 ≤ b.1).map (·.2)

/-- The conditions under which the lookups run. -/
def plan (settings : Settings) (deadline : Option Nat) : Schedule.Plan Task where
  places := settings.places
  duration? := Task.duration?
  deadline

/-- The objections after a run of the lookups. -/
def violations (expected : Option ChangeId) (l : SuffixList) (run : Schedule.State Task) :
    List Violation :=
  inOrder ((wildcards l).map (fun w => (w.2, .unverifiableWildcard w.1)) ++
    run.completed.filterMap (Task.objection? expected))

/-- The verification of a list: `expected` is the change that its changed suffixes should name, if
it is known, and `deadline` the time at which the verification is cancelled, if ever. -/
def verify (resolver : Resolver) (settings : Settings) (expected : Option ChangeId)
    (deadline : Option Nat) (l : SuffixList) : Report :=
  let tasks := tasks resolver settings.timeout l
  let run := Schedule.run (plan settings deadline) tasks
  let found := violations expected l run
  { violations := found
    cancelled := run.cancelled
    queries := run.starts.filterMap fun s => s.1.name?.map (·, s.2)
    elapsed := run.now
    peak := run.peak
    messages := messages l tasks.length found.length run }

end Online

end PublicSuffix
