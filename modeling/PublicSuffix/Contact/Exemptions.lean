import PublicSuffix.Text.Blank
import PublicSuffix.Text.Octets

/-!
# Contact policies and exempted entities

Entities with changes have to name a maintainer, unless a policy exempts them. A policy decides by
the entity's name alone.

The policy of a validation is given by a finite set of entity names. It is kept as a list without
repetition, but only membership counts: two sets are the same if they have the same members.

A set can be written as a text with one name per line. Blanks around a name do not belong to it,
which takes care of a carriage return before the line feed. Lines without a name and lines that
begin with `#` or `//` after their blanks are passed over.
-/

namespace PublicSuffix

/-- The entities that need no maintainer, by their names. -/
abbrev ContactPolicy := String → Bool

namespace ContactPolicy

/-- Exempts every entity. -/
def everyone : ContactPolicy := fun _ => true

/-- Exempts the entities whose name begins with the given text. -/
def beginningWith (start : String) : ContactPolicy := fun name =>
  start.toList.isPrefixOf name.toList

/-- Exempts the entities whose name ends with the given text. -/
def endingWith (ending : String) : ContactPolicy := fun name =>
  ending.toList.isSuffixOf name.toList

end ContactPolicy

/-! ## Sets of names -/

/-- A finite set of entity names. -/
structure Exemptions where
  names : List String
  nodup : names.Nodup

namespace Exemptions

/-- The set that exempts nobody. -/
def empty : Exemptions := ⟨[], List.nodup_nil⟩

instance : EmptyCollection Exemptions := ⟨empty⟩

instance : Membership String Exemptions := ⟨fun e name => name ∈ e.names⟩

instance (name : String) (e : Exemptions) : Decidable (name ∈ e) :=
  inferInstanceAs (Decidable (name ∈ e.names))

/-- The set with one more name. -/
def insert (e : Exemptions) (name : String) : Exemptions :=
  if h : name ∈ e.names then e else ⟨name :: e.names, List.nodup_cons.mpr ⟨h, e.nodup⟩⟩

@[simp] theorem mem_insert {e : Exemptions} {name other : String} :
    other ∈ e.insert name ↔ other = name ∨ other ∈ e := by
  show other ∈ (e.insert name).names ↔ other = name ∨ other ∈ e.names
  by_cases h : name ∈ e.names
  · simp only [insert, h, dif_pos]
    exact ⟨Or.inr, fun h' => h'.elim (· ▸ h) id⟩
  · simp [insert, h]

/-- The set of the given names. -/
def ofNames (names : List String) : Exemptions :=
  names.foldl insert empty

theorem mem_foldl_insert {names : List String} {e : Exemptions} {name : String} :
    name ∈ names.foldl insert e ↔ name ∈ names ∨ name ∈ e := by
  induction names generalizing e with
  | nil => simp
  | cons n names ih => rw [List.foldl_cons, ih, mem_insert, List.mem_cons]; grind

@[simp] theorem mem_ofNames {names : List String} {name : String} :
    name ∈ ofNames names ↔ name ∈ names := by
  rw [ofNames, mem_foldl_insert]
  exact ⟨fun h => h.elim id (fun h' => absurd h' List.not_mem_nil), Or.inl⟩

/-- The number of names. -/
def size (e : Exemptions) : Nat := e.names.length

/-- Whether a name is exempted. -/
def contains (e : Exemptions) (name : String) : Bool := e.names.contains name

/-- Whether two sets have the same members. -/
def same (a b : Exemptions) : Bool :=
  a.names.all b.contains && b.names.all a.contains

theorem contains_iff {e : Exemptions} {name : String} : e.contains name = true ↔ name ∈ e :=
  List.contains_iff_mem

theorem same_iff {a b : Exemptions} : a.same b = true ↔ ∀ name, name ∈ a ↔ name ∈ b := by
  simp only [same, Bool.and_eq_true, List.all_eq_true, contains_iff]
  exact ⟨fun h name => ⟨h.1 name, h.2 name⟩, fun h => ⟨fun n => (h n).mp, fun n => (h n).mpr⟩⟩

/-- The policy that exempts the members of the set. -/
def policy (e : Exemptions) : ContactPolicy := e.contains

/-! ## Written sets -/

/-- Whether a trimmed line gives a name. -/
def isEntry (line : List Char) : Bool :=
  line != [] && !(['#'].isPrefixOf line) && !(['/', '/'].isPrefixOf line)

/-- The names that a text lists, in order. -/
def entries (text : String) : List String :=
  (((text.toList.splitOn '\n').map Text.trim).filter isEntry).map String.ofList

/-- The set that a text lists. -/
def ofText (text : String) : Exemptions := ofNames (entries text)

/-- Why a file gives no set. -/
inductive FileError where
  | missing
  | notText
  deriving DecidableEq, Repr

/-- The set that the contents of a file list. A file that does not exist has no contents. -/
def ofFile (contents : Option (List UInt8)) : Except FileError Exemptions :=
  match contents with
  | none => .error .missing
  | some octets =>
    match Text.decode? octets with
    | none => .error .notText
    | some text => .ok (ofText text)

end Exemptions

end PublicSuffix
