import PublicSuffix.Contact.Exemptions
import PublicSuffix.Offline.Uniqueness
import PublicSuffix.Violation

/-!
# Rules that need no network

There are three groups of rules, checked one after the other:

1. every changed entity of the first private section has a name, and it has a maintainer unless
   the policy exempts it;
2. a changed section has one of the two wanted names, no section repeats another one, and both
   wanted sections exist;
3. no suffix and no wildcard repeats another one, every exception of a changed wildcard gives a
   name, and that name is no suffix.

A rule about two blocks objects only if at least one of them is changed, so a change is never
blamed for what was there before.
-/

namespace PublicSuffix

/-- The name of the section for suffixes delegated by ICANN. -/
def icannSection : String := "ICANN DOMAINS"

/-- The name of the section for suffixes registered by private entities. -/
def privateSection : String := "PRIVATE DOMAINS"

/-- The names of the sections that a list has. -/
def wantedSections : List String := [icannSection, privateSection]

namespace Offline

/-! ## Entities -/

/-- The objections to one changed entity. -/
def entityViolations (policy : ContactPolicy) (e : Located Entity) : List Violation :=
  (if e.value.info.name = "" then [.unnamedEntity e] else []) ++
    (if e.value.info.maintainers = [] ∧ policy e.value.info.name = false then [.missingContact e]
    else [])

/-- The changed entities at or below a node. -/
def changedEntities (b : Located Block) : List (Located Entity) :=
  (select Block.entity? b.below).filter (·.value.changed)

/-- The objections to the entities of the first private section. -/
def contactViolations (policy : ContactPolicy) (l : SuffixList) : List Violation :=
  match l.section? privateSection with
  | none => []
  | some s => (changedEntities s).flatMap (entityViolations policy)

/-! ## Sections -/

/-- Whether a section is a change that a list has no place for. -/
def isUnknown (s : Section) : Bool := s.changed && !(wantedSections.contains s.name)

/-- Sections are told apart by their names; unknown ones are reported for that alone. -/
def sectionUniqueness : Uniqueness String Section where
  key s := s.name
  changed s := s.changed
  eligible s := !isUnknown s

/-- The objections to a section, given the one that it rivals. -/
def sectionViolations (x : Located Section × Option (Located Section)) : List Violation :=
  if isUnknown x.1.value then [.unknownSection x.1]
  else x.2.toList.map (.duplicateSection x.1)

/-- The wanted names that no section has. -/
def missingSections (l : SuffixList) : List String :=
  wantedSections.filter fun name => !l.sections.any fun s => s.value.name == name

/-- The objections to the sections of a list. -/
def structureViolations (l : SuffixList) : List Violation :=
  (sectionUniqueness.scan l.sections).flatMap sectionViolations ++
    (missingSections l).map .missingSection

/-! ## Suffixes and wildcards -/

/-- Suffixes are told apart by their domains. -/
def suffixUniqueness : Uniqueness Name Suffix where
  key s := s.domain
  changed s := s.changed

/-- Wildcards are told apart by their domains. -/
def wildcardUniqueness : Uniqueness Name Wildcard where
  key w := w.domain
  changed w := w.changed

/-- The objection to an exception of a wildcard, given the representatives of the suffixes. -/
def exceptionViolation? (suffixes : List (Located Suffix)) (w : Located Wildcard)
    (label : String) : Option Violation :=
  match w.value.domain.child label with
  | .error e => if w.value.changed then some (.badException w label e) else none
  | .ok name =>
    match suffixUniqueness.find? suffixes name with
    | none => none
    | some s => if w.value.changed || s.value.changed then some (.excludedSuffix s w) else none

/-- The objections to a wildcard, given the one that it rivals and the representatives of the
suffixes. -/
def wildcardViolations (suffixes : List (Located Suffix))
    (x : Located Wildcard × Option (Located Wildcard)) : List Violation :=
  x.2.toList.map (.duplicateWildcard x.1.value.display x.1) ++
    x.1.value.exceptions.filterMap (exceptionViolation? suffixes x.1)

/-- The objections to the suffixes and wildcards of a list. -/
def ruleViolations (l : SuffixList) : List Violation :=
  ((suffixUniqueness.scan l.suffixes).flatMap fun x =>
    x.2.toList.map (.duplicateSuffix x.1.value.domain.text x.1)) ++
  (wildcardUniqueness.scan l.wildcards).flatMap
    (wildcardViolations (suffixUniqueness.representatives l.suffixes))

/-- All objections to a list that need no network, under a contact policy. -/
def validate (policy : ContactPolicy) (l : SuffixList) : List Violation :=
  contactViolations policy l ++ structureViolations l ++ ruleViolations l

end Offline

end PublicSuffix
