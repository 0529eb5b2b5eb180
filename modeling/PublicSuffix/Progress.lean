import PublicSuffix.Log
import PublicSuffix.Online.Checks
import PublicSuffix.Provenance.Schedule

/-!
# What validations log

A validation without the network logs how much it found. A verification warns of each wildcard and
of each failed lookup, logs every query when it is sent and when its answer has been read, and
says how many lookups there are, whether it was cancelled, and how much it found.
-/

namespace PublicSuffix

/-- What is logged about a validation without the network. -/
def Offline.messages (found : List Violation) : List Log.Message :=
  [⟨.debug, .offline, "Offline validation found " ++ toString found.length ++ " problem(s)"⟩]

namespace Online

/-- What is logged when a query is sent. -/
def startMessage (q : Query) : Log.Message :=
  ⟨.trace, .lookup, "Looking up TXT records for " ++ q.name.text⟩

/-- What is logged when an answer has been read. A failure of the query or of a change number is
left to the message about the suffix. -/
def answerMessages (q : Query) : List Log.Message :=
  match q.answer with
  | .error _ => []
  | .ok [] => [⟨.trace, .lookup, q.name.text ++ " has no TXT records"⟩]
  | .ok records =>
    match changeOfRecords records with
    | .error _ => []
    | .ok (some id) => [⟨.trace, .lookup, q.name.text ++ " declares change " ++ toString id.toNat⟩]
    | .ok none =>
      [⟨.trace, .lookup,
        q.name.text ++ " has no change URL in " ++ toString records.length ++ " record(s)"⟩]

/-- What is logged about a suffix whose lookup is over. -/
def failureMessages (t : Task) : List Log.Message :=
  match t.change with
  | .error e =>
    [⟨.warn, .online,
      "Looking up " ++ Violation.recordsOf t.suffix ++ " failed: " ++ e.message⟩]
  | .ok _ => []

/-- What is logged about an event of the schedule. -/
def eventMessages (e : Schedule.Event Task) : List Log.Message :=
  match e.change, e.task.query with
  | .started, .ok q => [startMessage q]
  | .started, .error _ => []
  | .ended, .ok q => answerMessages q ++ failureMessages e.task
  | .ended, .error _ => failureMessages e.task
  | .refused, _ => failureMessages e.task

/-- What is logged about a wildcard. -/
def wildcardMessage (w : Located Wildcard) : Log.Message :=
  ⟨.warn, .online, "Cannot verify wildcard " ++ w.value.display ++ " through DNS"⟩

/-- What is logged about a whole verification, given the number of lookups and of objections. -/
def messages (l : SuffixList) (lookups found : Nat) (run : Schedule.State Task) :
    List Log.Message :=
  (wildcards l).map (fun w => wildcardMessage w.1) ++
    [⟨.debug, .online, "Looking up _psl records for " ++ toString lookups ++ " suffix(es)"⟩] ++
    run.history.flatMap eventMessages ++
    (if run.cancelled then [⟨.warn, .online, "Online validation cancelled"⟩] else []) ++
    [⟨.debug, .online, "Online validation found " ++ toString found ++ " problem(s)"⟩]

end Online

end PublicSuffix
