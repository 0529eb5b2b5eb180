import PublicSuffix.Document.Block

/-!
# Walking a list

The nodes of a tree are its root and all blocks below it. They are numbered from 0 in preorder:
a node comes before what stands below it, and blocks under one heading come in their order. Every
walk of the library is a selection from one listing, `Block.located`, so what it finds comes in
increasing order of these numbers.

The listing gives the first block of a sequence its number and every later one the number that
the sizes of its predecessors leave to it.
-/

namespace PublicSuffix

/-- Something found at a node, with the node's number. -/
structure Located (α : Type) where
  index : Nat
  value : α
  deriving DecidableEq

/-- Another view of what was found at the same node. -/
def Located.map {α β : Type} (f : α → β) (x : Located α) : Located β := ⟨x.index, f x.value⟩

/-- The members of a listing that `f` recognises, as what it takes them for. -/
def select {α β : Type} (f : α → Option β) (xs : List (Located α)) : List (Located β) :=
  xs.filterMap fun x => (f x.value).map (⟨x.index, ·⟩)

/-! ## The listing -/

mutual

/-- The number of nodes of a block, itself included. -/
def Block.size : Block → Nat
  | .group _ bs => Block.sizeAll bs + 1
  | .entry _ => 1

/-- The number of nodes of a sequence of blocks. -/
def Block.sizeAll : List Block → Nat
  | [] => 0
  | b :: bs => b.size + Block.sizeAll bs

end

mutual

/-- The nodes of a block in preorder, the block itself having the number `start`. -/
def Block.located (start : Nat) : Block → List (Located Block)
  | .group h bs => ⟨start, .group h bs⟩ :: Block.locatedAll (start + 1) bs
  | .entry e => [⟨start, .entry e⟩]

/-- The nodes of a sequence of blocks in preorder, the first block having the number `start`. -/
def Block.locatedAll (start : Nat) : List Block → List (Located Block)
  | [] => []
  | b :: bs => b.located start ++ Block.locatedAll (start + b.size) bs

end

/-- The nodes at or below a node that was found. -/
def Located.below (b : Located Block) : List (Located Block) := b.value.located b.index

/-- The blocks of a list in preorder. The list itself is node 0. -/
def SuffixList.located (l : SuffixList) : List (Located Block) := Block.locatedAll 1 l.blocks

/-- The sections of a list. -/
def SuffixList.sections (l : SuffixList) : List (Located Section) :=
  select Block.section? l.located

/-- The suffixes of a list. -/
def SuffixList.suffixes (l : SuffixList) : List (Located Suffix) :=
  select Block.suffix? l.located

/-- The wildcards of a list. -/
def SuffixList.wildcards (l : SuffixList) : List (Located Wildcard) :=
  select Block.wildcard? l.located

/-- Whether a block opens a section of the given name. -/
def Block.opensSection (name : String) (b : Block) : Bool :=
  match b.section? with
  | some s => s.name == name
  | none => false

/-- The first section of the given name, at whatever depth. -/
def SuffixList.section? (l : SuffixList) (name : String) : Option (Located Block) :=
  l.located.find? fun b => b.value.opensSection name

end PublicSuffix
