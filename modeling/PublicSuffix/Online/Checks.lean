import PublicSuffix.Offline.Rules
import PublicSuffix.Provenance.Lookup

/-!
# What is verified through the network

Every suffix of a changed private entity has to have records that can be looked up, and the
records of a changed suffix have to name the change that is expected. Wildcards of such entities
cannot be verified and are reported.

The suffixes and wildcards to check are collected first and numbered; for each entity its suffixes
come before its wildcards. An entity below two private sections is collected for each of them.
-/

namespace PublicSuffix

namespace Online

/-! ## What is to be checked -/

/-- Something to check: the records of a suffix, or that there is a wildcard. -/
inductive Check where
  | records (s : Located Suffix)
  | wildcard (w : Located Wildcard)
  deriving DecidableEq

/-- Whether a block names a changed entity. -/
def isChangedEntity (b : Block) : Bool :=
  match b.entity? with
  | some e => e.changed
  | none => false

/-- The changed entities of all private sections. -/
def entities (l : SuffixList) : List (Located Block) :=
  ((l.located.filter fun b => b.value.opensSection privateSection).flatMap Located.below).filter
    fun b => isChangedEntity b.value

/-- What is to be checked for one entity. -/
def checksOf (entity : Located Block) : List Check :=
  (select Block.suffix? entity.below).map .records ++
    (select Block.wildcard? entity.below).map .wildcard

/-- All checks, each with its number. -/
def checks (l : SuffixList) : List (Check × Nat) := ((entities l).flatMap checksOf).zipIdx

/-! ## Suffixes -/

/-- The lookup of a suffix, with the number of its check. -/
structure Task where
  position : Nat
  suffix : Located Suffix
  query : Except NameError Query

/-- The lookups of a list, in order. -/
def tasks (resolver : Resolver) (timeout : Nat) (l : SuffixList) : List Task :=
  (checks l).filterMap fun c =>
    match c.1 with
    | .records s => some ⟨c.2, s, Query.about resolver timeout s.value.domain⟩
    | .wildcard _ => none

/-- The name asked for in a lookup. -/
def Task.name? (t : Task) : Option Name :=
  match t.query with
  | .ok q => some q.name
  | .error _ => none

/-- How long a lookup takes. One without a name to ask for is refused. -/
def Task.duration? (t : Task) : Option Nat :=
  match t.query with
  | .ok q => some q.duration
  | .error _ => none

/-- The result of a lookup. -/
def Task.change (t : Task) : Except LookupError (Option ChangeId) := changeOfQuery t.query

/-- The objection to a suffix, given the result of its lookup. Only a changed suffix is held
against the expected change. -/
def verdict (expected : Option ChangeId) (s : Located Suffix) :
    Except LookupError (Option ChangeId) → Option Violation
  | .error e => some (.failedLookup s e)
  | .ok declared =>
    match expected with
    | none => none
    | some n => if s.value.changed ∧ declared ≠ some n then some (.wrongChange s n declared) else none

/-- The numbered objection of a lookup that is over. -/
def Task.objection? (expected : Option ChangeId) (t : Task) : Option (Nat × Violation) :=
  (verdict expected t.suffix t.change).map fun v => (t.position, v)

/-! ## Wildcards -/

/-- The wildcards to check. -/
def wildcards (l : SuffixList) : List (Located Wildcard × Nat) :=
  (checks l).filterMap fun c =>
    match c.1 with
    | .records _ => none
    | .wildcard w => some (w, c.2)

end Online

end PublicSuffix
