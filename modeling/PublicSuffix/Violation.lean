import PublicSuffix.Document.Walk
import PublicSuffix.Provenance.Lookup

/-!
# Violations

What a validation objects to. Each violation names the blocks that it is about by their numbers
in the list, with what the blocks say of themselves.
-/

namespace PublicSuffix

/-- An objection to a list. -/
inductive Violation where
  /-- A changed entity has no name. -/
  | unnamedEntity (entity : Located Entity)
  /-- A changed entity has no maintainer and is not exempted. -/
  | missingContact (entity : Located Entity)
  /-- A changed section is none of those that a list has. -/
  | unknownSection (found : Located Section)
  /-- A section has the name of an earlier one. -/
  | duplicateSection (later first : Located Section)
  /-- There is no section of a name that is needed. -/
  | missingSection (name : String)
  /-- A suffix has the domain of an earlier one. The rule that occurs twice is named. -/
  | duplicateSuffix (name : String) (later first : Located Suffix)
  /-- A wildcard has the domain of an earlier one. -/
  | duplicateWildcard (name : String) (later first : Located Wildcard)
  /-- A suffix is excluded by an exception of a wildcard. -/
  | excludedSuffix (suffix : Located Suffix) (wildcard : Located Wildcard)
  /-- An exception of a changed wildcard gives no name. -/
  | badException (wildcard : Located Wildcard) (label : String) (error : NameError)
  /-- The records of a changed suffix do not name the expected change. -/
  | wrongChange (suffix : Located Suffix) (expected : ChangeId) (declared : Option ChangeId)
  /-- The lookup of a suffix failed. -/
  | failedLookup (suffix : Located Suffix) (error : LookupError)
  /-- A changed entity has a wildcard, which no record can vouch for. -/
  | unverifiableWildcard (wildcard : Located Wildcard)
  deriving DecidableEq

namespace Violation

/-- The lines that a violation is about. What is missing has none. -/
def lines? : Violation → Option LineRange
  | unnamedEntity e | missingContact e => some e.value.lines
  | unknownSection s | duplicateSection s _ => some s.value.lines
  | missingSection _ => none
  | duplicateSuffix _ s _ | wrongChange s _ _ | failedLookup s _ => some s.value.lines
  | duplicateWildcard _ w _ | excludedSuffix _ w | badException w _ _ | unverifiableWildcard w =>
    some w.value.lines

/-- The beginning of a message about certain lines. -/
def inLines (lines : LineRange) (text : String) : String := lines.display ++ ": " ++ text

/-- The name of a suffix's records. -/
def recordsOf (s : Located Suffix) : String := Query.label ++ "." ++ s.value.domain.text

/-- The objection in words. Texts that a list may hold freely are quoted. -/
def message : Violation → String
  | unnamedEntity e => inLines e.value.lines "suffix block has no entity name"
  | missingContact e =>
    inLines e.value.lines ("suffix block for " ++ Text.quoted e.value.info.name ++
      " has no contact information")
  | unknownSection s => inLines s.value.lines ("unknown section " ++ Text.quoted s.value.name)
  | duplicateSection s first =>
    inLines s.value.lines ("section " ++ Text.quoted s.value.name ++ " already defined at " ++
      first.value.lines.display)
  | missingSection name => "missing required section " ++ Text.quoted name
  | duplicateSuffix name s first =>
    inLines s.value.lines ("suffix " ++ name ++ " already defined at " ++
      first.value.lines.display)
  | duplicateWildcard name w first =>
    inLines w.value.lines ("suffix " ++ name ++ " already defined at " ++
      first.value.lines.display)
  | excludedSuffix s w =>
    inLines s.value.lines ("suffix " ++ s.value.domain.text ++
      " conflicts with an exception of wildcard " ++ w.value.display ++ " at " ++
      w.value.lines.display)
  | badException w label error =>
    inLines w.value.lines ("invalid exception " ++ Text.quoted label ++ " of wildcard " ++
      w.value.display ++ ": " ++ error.message)
  | wrongChange s expected (some declared) =>
    inLines s.value.lines (recordsOf s ++ " names change " ++ toString declared.toNat ++
      " instead of " ++ toString expected.toNat)
  | wrongChange s expected none =>
    inLines s.value.lines (recordsOf s ++ " has no record naming change " ++ toString expected.toNat)
  | failedLookup s error =>
    inLines s.value.lines ("looking up " ++ recordsOf s ++ " failed: " ++ error.message)
  | unverifiableWildcard w =>
    inLines w.value.lines ("DNS verification of wildcard " ++ w.value.display ++ " is not supported")

/-- The reason behind a violation, where there is one. -/
def cause? : Violation → Option String
  | badException _ _ error => some error.message
  | failedLookup _ error => some error.message
  | _ => none

/-- The numbers of the blocks that a violation is about. -/
def nodes : Violation → List Nat
  | unnamedEntity e | missingContact e => [e.index]
  | unknownSection s => [s.index]
  | duplicateSection s first => [s.index, first.index]
  | missingSection _ => []
  | duplicateSuffix _ s first => [s.index, first.index]
  | duplicateWildcard _ w first => [w.index, first.index]
  | excludedSuffix s w => [s.index, w.index]
  | badException w _ _ => [w.index]
  | wrongChange s _ _ | failedLookup s _ => [s.index]
  | unverifiableWildcard w => [w.index]

end Violation

end PublicSuffix
