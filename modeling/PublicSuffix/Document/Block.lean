import PublicSuffix.Document.LineRange
import PublicSuffix.Domain.Name

/-!
# Suffix lists as trees of blocks

A suffix list is a sequence of blocks. A *group* is a heading with the blocks under it; a heading
opens a section or names the entity that registered what follows. An *entry* has nothing under
it: it is a suffix, a wildcard with its exceptions, or a comment. Groups may hold any blocks, in
any order and to any depth.

Every heading and entry carries the lines it was read from and a *changed* flag, which says
whether it differs from the revision that the list is compared with. The flag belongs to the
heading or entry itself and is not derived from what stands below it.
-/

namespace PublicSuffix

/-- The opening of a section. -/
structure Section where
  name : String
  lines : LineRange := {}
  changed : Bool := false
  deriving DecidableEq

/-- Someone to write to about an entity's entries. -/
structure Maintainer where
  name : Option String := none
  email : Option String := none
  github : Option String := none
  deriving DecidableEq

/-- What a list says about an entity. The name is empty if the list gives none. -/
structure EntityInfo where
  name : String
  urls : List String := []
  maintainers : List Maintainer := []
  other : List String := []
  deriving DecidableEq

/-- The entity that registered the blocks below it. -/
structure Entity where
  info : EntityInfo
  lines : LineRange := {}
  changed : Bool := false
  deriving DecidableEq

/-- The rule that one domain is a public suffix. -/
structure Suffix where
  domain : Name
  lines : LineRange := {}
  changed : Bool := false
  deriving DecidableEq

/-- The rule that all names one level below a domain are public suffixes, but for the exceptions.
An exception is the leftmost label of the name it excludes; whether it is one is not checked
here. -/
structure Wildcard where
  domain : Name
  exceptions : List String := []
  lines : LineRange := {}
  changed : Bool := false
  deriving DecidableEq

/-- Lines of comment. -/
structure Comment where
  text : List String
  lines : LineRange := {}
  changed : Bool := false
  deriving DecidableEq

/-- The name of a wildcard rule, with the asterisk for the open label. -/
def Wildcard.display (w : Wildcard) : String := "*." ++ w.domain.text

/-- What opens a group of blocks. -/
inductive Heading where
  | ofSection (s : Section)
  | ofEntity (e : Entity)
  deriving DecidableEq

/-- A block with nothing below it. -/
inductive Entry where
  | ofSuffix (s : Suffix)
  | ofWildcard (w : Wildcard)
  | ofComment (c : Comment)
  deriving DecidableEq

/-- A block of a list. -/
inductive Block where
  | group (heading : Heading) (blocks : List Block)
  | entry (e : Entry)

/-- A suffix list. -/
structure SuffixList where
  blocks : List Block := []

/-! ## Equality -/

mutual

/-- Blocks are equal if they say the same and hold equal blocks in the same order. -/
def Block.decEq : (a b : Block) → Decidable (a = b)
  | .group h bs, .group k cs =>
    if hk : h = k then
      match Block.decEqList bs cs with
      | isTrue e => isTrue (by subst hk e; rfl)
      | isFalse e => isFalse (by intro e'; cases e'; exact e rfl)
    else isFalse (by intro e'; cases e'; exact hk rfl)
  | .entry e, .entry f =>
    if h : e = f then isTrue (by subst h; rfl) else isFalse (by intro e'; cases e'; exact h rfl)
  | .group .., .entry .. => isFalse nofun
  | .entry .., .group .. => isFalse nofun

/-- Equality of sequences of blocks. -/
def Block.decEqList : (as bs : List Block) → Decidable (as = bs)
  | [], [] => isTrue rfl
  | a :: as, b :: bs =>
    match Block.decEq a b with
    | isTrue h =>
      match Block.decEqList as bs with
      | isTrue h' => isTrue (by subst h h'; rfl)
      | isFalse h' => isFalse (by intro e; cases e; exact h' rfl)
    | isFalse h => isFalse (by intro e; cases e; exact h rfl)
  | [], _ :: _ => isFalse nofun
  | _ :: _, [] => isFalse nofun

end

instance : DecidableEq Block := Block.decEq

instance : DecidableEq SuffixList := fun a b =>
  match Block.decEqList a.blocks b.blocks with
  | isTrue h => isTrue (by cases a; cases b; cases h; rfl)
  | isFalse h => isFalse (by intro e; cases e; exact h rfl)

/-! ## Changes -/

/-- Whether the heading differs from the compared revision. -/
def Heading.changed : Heading → Bool
  | .ofSection s => s.changed
  | .ofEntity e => e.changed

/-- Whether the entry differs from the compared revision. -/
def Entry.changed : Entry → Bool
  | .ofSuffix s => s.changed
  | .ofWildcard w => w.changed
  | .ofComment c => c.changed

/-- Whether the block differs from the compared revision. -/
def Block.changed : Block → Bool
  | .group h _ => h.changed
  | .entry e => e.changed

/-- A list is changed if one of its outermost blocks is. -/
def SuffixList.changed (l : SuffixList) : Bool := l.blocks.any Block.changed

/-! ## Particular blocks -/

/-- The section that a block opens. -/
def Block.section? : Block → Option Section
  | .group (.ofSection s) _ => some s
  | _ => none

/-- The entity that a block names. -/
def Block.entity? : Block → Option Entity
  | .group (.ofEntity e) _ => some e
  | _ => none

/-- The suffix that a block is. -/
def Block.suffix? : Block → Option Suffix
  | .entry (.ofSuffix s) => some s
  | _ => none

/-- The wildcard that a block is. -/
def Block.wildcard? : Block → Option Wildcard
  | .entry (.ofWildcard w) => some w
  | _ => none

/-- The comment that a block is. -/
def Block.comment? : Block → Option Comment
  | .entry (.ofComment c) => some c
  | _ => none

theorem Block.changed_of_section? {s : Section} :
    {b : Block} → b.section? = some s → b.changed = s.changed
  | .group (.ofSection _) _, rfl => rfl

theorem Block.changed_of_entity? {e : Entity} :
    {b : Block} → b.entity? = some e → b.changed = e.changed
  | .group (.ofEntity _) _, rfl => rfl

theorem Block.changed_of_suffix? {s : Suffix} :
    {b : Block} → b.suffix? = some s → b.changed = s.changed
  | .entry (.ofSuffix _), rfl => rfl

theorem Block.changed_of_wildcard? {w : Wildcard} :
    {b : Block} → b.wildcard? = some w → b.changed = w.changed
  | .entry (.ofWildcard _), rfl => rfl

end PublicSuffix
