import PublicSuffix.Domain.Name
import PublicSuffix.Provenance.ChangeUrl

/-!
# Lookups

Whoever adds a private suffix shows control of its domain by a TXT record at the label `_psl` below
it, with the URL of the change that adds the suffix. A lookup asks a resolver for these records and
reads the change from the first record that decides: one with a change URL, be its number good or
bad.

A resolver is given by its replies. A reply comes after some milliseconds or never, and it is
awaited no longer than the timeout. A reply that arrives just at the timeout counts.
-/

namespace PublicSuffix

/-- What a resolver says to a query: the records at a name, or why there are none. -/
abbrev Answer := Except LookupError (List String)

/-- An answer with the time it takes, in milliseconds; `none` if it never arrives. -/
structure Reply where
  delay : Option Nat
  answer : Answer

/-- The replies to the names that may be asked for. -/
abbrev Resolver := Name → Reply

/-- The resolver that knows the listed names, by their texts, and at once says of every other that
it does not exist. -/
def Resolver.ofTable (table : List (String × Reply)) : Resolver := fun name =>
  (table.lookup name.text).getD ⟨some 0, .error (.response "NXDOMAIN")⟩

/-- A query that has been sent: the name asked for, the time it will take, and what will be known
at its end. -/
structure Query where
  name : Name
  duration : Nat
  answer : Answer

namespace Query

/-- The label below a suffix at which its records are. -/
def label : String := "_psl"

/-- The name to ask for. -/
def nameFor (domain : Name) : Except NameError Name := domain.child label

/-- The query for a name, answered by `reply` or broken off at the timeout. -/
def ofReply (timeout : Nat) (name : Name) (reply : Reply) : Query :=
  match reply.delay with
  | some d => if d ≤ timeout then ⟨name, d, reply.answer⟩ else ⟨name, timeout, .error .timeout⟩
  | none => ⟨name, timeout, .error .timeout⟩

/-- The query about a domain, unless its name cannot be built. -/
def about (resolver : Resolver) (timeout : Nat) (domain : Name) : Except NameError Query := do
  let name ← nameFor domain
  return ofReply timeout name (resolver name)

end Query

/-- The change that records name: the first record that decides it. -/
def changeOfRecords : List String → Except LookupError (Option ChangeId)
  | [] => .ok none
  | text :: texts =>
    match ChangeUrl.changeId text with
    | .ok none => changeOfRecords texts
    | decided => decided

/-- The change that an answer names. No records at all are an error. -/
def Query.change (q : Query) : Except LookupError (Option ChangeId) :=
  match q.answer with
  | .error e => .error e
  | .ok [] => .error .noRecords
  | .ok records => changeOfRecords records

/-- The outcome of a query about a domain. -/
def changeOfQuery : Except NameError Query → Except LookupError (Option ChangeId)
  | .error e => .error (.name e)
  | .ok q => q.change

/-- The change that the records of a domain name. -/
def lookupChange (resolver : Resolver) (timeout : Nat) (domain : Name) :
    Except LookupError (Option ChangeId) :=
  changeOfQuery (Query.about resolver timeout domain)

end PublicSuffix
