import PublicSuffix.Document.Walk

/-!
# Blocks that should not occur twice

A scan goes through blocks in preorder and remembers one representative for each key. A block
whose key is remembered is a *rival* of the representative if at least one of the two is changed;
then it is reported and not remembered. Two unchanged blocks do not rival, and the later one
becomes the representative. So the representative of a key is its first block if that one is
changed, and its last unchanged block so far otherwise.
-/

namespace PublicSuffix

/-- What a scan looks at. -/
structure Uniqueness (κ α : Type) where
  key : α → κ
  changed : α → Bool
  /-- Whether a block takes part in the scan at all. -/
  eligible : α → Bool := fun _ => true

namespace Uniqueness

variable {κ α : Type} [DecidableEq κ] (u : Uniqueness κ α)

/-- The representative of a key. -/
def find? (kept : List (Located α)) (k : κ) : Option (Located α) :=
  kept.find? fun y => u.key y.value = k

/-- The representative that a block rivals. -/
def rival? (kept : List (Located α)) (x : Located α) : Option (Located α) :=
  if u.eligible x.value then
    (u.find? kept (u.key x.value)).filter fun y => u.changed x.value || u.changed y.value
  else none

/-- The representatives after a block, the newest first. -/
def keep (kept : List (Located α)) (x : Located α) : List (Located α) :=
  if u.eligible x.value ∧ u.rival? kept x = none then x :: kept else kept

/-- The blocks of a scan, each with the representative that it rivals. -/
def scanFrom (kept : List (Located α)) :
    List (Located α) → List (Located α × Option (Located α))
  | [] => []
  | x :: xs => (x, u.rival? kept x) :: scanFrom (u.keep kept x) xs

/-- The scan of blocks in preorder. -/
def scan (xs : List (Located α)) : List (Located α × Option (Located α)) := u.scanFrom [] xs

/-- The representatives after a whole scan. -/
def representatives (xs : List (Located α)) : List (Located α) := xs.foldl u.keep []

end Uniqueness

end PublicSuffix
