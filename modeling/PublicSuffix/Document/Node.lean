import PublicSuffix.Document.Walk

/-!
# Nodes and their kinds

A node is a whole list or a block. Every node has one kind, and asking a tree for a kind gives the
nodes of that kind at or below the root. `Kind.block` stands for blocks in general; since every
block has a kind of its own, no node has that one.
-/

namespace PublicSuffix

/-- A tree: a whole list or a single block with what stands below it. -/
inductive Node where
  | list (l : SuffixList)
  | block (b : Block)
  deriving DecidableEq

/-- The kinds that nodes are asked for. -/
inductive Kind where
  | list
  | block
  | sectionHeading
  | entityHeading
  | suffix
  | wildcard
  | comment
  deriving DecidableEq, Repr

/-- The kind of a block. -/
def Block.kind : Block → Kind
  | .group (.ofSection _) _ => .sectionHeading
  | .group (.ofEntity _) _ => .entityHeading
  | .entry (.ofSuffix _) => .suffix
  | .entry (.ofWildcard _) => .wildcard
  | .entry (.ofComment _) => .comment

namespace Node

/-- The kind of a node. -/
def kind : Node → Kind
  | .list _ => .list
  | .block b => b.kind

/-- The blocks directly below a node. -/
def children : Node → List Block
  | .list l => l.blocks
  | .block (.group _ bs) => bs
  | .block (.entry _) => []

/-- Whether a node is changed. -/
def changed : Node → Bool
  | .list l => l.changed
  | .block b => b.changed

/-- All nodes of a tree in preorder, the root having number 0. -/
def located : Node → List (Located Node)
  | .list l => ⟨0, .list l⟩ :: l.located.map (·.map .block)
  | .block b => (b.located 0).map (·.map .block)

/-- The nodes of one kind at or below the root, in preorder. -/
def ofKind (k : Kind) (root : Node) : List (Located Node) :=
  root.located.filter fun n => n.value.kind == k

/-! ## Outlines -/

/-- One line of a tree's outline. -/
structure OutlineRow where
  depth : Nat
  kind : Kind
  changed : Bool
  children : Nat
  deriving DecidableEq, Repr

/-- The outline row of a node. -/
def row (depth : Nat) (n : Node) : OutlineRow :=
  ⟨depth, n.kind, n.changed, n.children.length⟩

mutual

/-- The outline of a block that lies at the given depth. -/
def outlineBlock (depth : Nat) : Block → List OutlineRow
  | .group h bs => row depth (.block (.group h bs)) :: outlineBlocks (depth + 1) bs
  | .entry e => [row depth (.block (.entry e))]

/-- The outlines of a sequence of blocks. -/
def outlineBlocks (depth : Nat) : List Block → List OutlineRow
  | [] => []
  | b :: bs => outlineBlock depth b ++ outlineBlocks depth bs

end

/-- One row for every node, in preorder. -/
def outline : Node → List OutlineRow
  | .list l => row 0 (.list l) :: outlineBlocks 1 l.blocks
  | .block b => outlineBlock 0 b

end Node

end PublicSuffix
