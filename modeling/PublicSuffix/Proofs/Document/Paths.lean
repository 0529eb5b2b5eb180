import PublicSuffix.Document.Node
import PublicSuffix.Proofs.Document.Preorder
import Mathlib.Data.List.Forall2

/-!
# Paths through a tree

A path leads from the root of a tree to one of its nodes: at each node it names the child to go on
with. Preorder is the lexicographic order of paths, in which a path comes before those that extend
it (`Preorder`). The listing of a tree has its nodes in this order and numbers them from 0
(`preorder_paths`, `forall₂_located`, `map_index_located`), so that a number stands for a path
(`mem_located_iff`).
-/

namespace PublicSuffix

/-- The node to which a path leads. -/
def Node.follow? : Node → List Nat → Option Node
  | n, [] => some n
  | n, i :: p => n.children[i]?.bind fun b => (Node.block b).follow? p

/-- The paths of a tree in preorder. There is one such list only, as it has every path, once and in
order. -/
structure Node.Preorder (root : Node) (paths : List (List Nat)) : Prop where
  sorted : paths.Pairwise (· < ·)
  complete : ∀ p, p ∈ paths ↔ ∃ n, root.follow? p = some n

mutual

/-- The paths of a block. -/
def Block.paths : Block → List (List Nat)
  | .group _ bs => [] :: Block.pathsAll 0 bs
  | .entry _ => [[]]

/-- The paths that begin with one of a sequence of children, of which the first has number `i`. -/
def Block.pathsAll (i : Nat) : List Block → List (List Nat)
  | [] => []
  | b :: bs => b.paths.map (i :: ·) ++ Block.pathsAll (i + 1) bs

end

/-- The paths of a tree. -/
def Node.paths : Node → List (List Nat)
  | .list l => [] :: Block.pathsAll 0 l.blocks
  | .block b => b.paths

/-! ## Where paths lead -/

/-- A path through the children `bs`, of which the first has number `i`, leads to `b`. -/
def Block.Leads (i : Nat) (bs : List Block) (p : List Nat) (b : Block) : Prop :=
  ∃ j q c, p = (i + j) :: q ∧ bs[j]? = some c ∧ (Node.block c).follow? q = some (.block b)

mutual

theorem Block.forall₂_paths (start : Nat) : (b : Block) → List.Forall₂
    (fun p x => (Node.block b).follow? p = some (.block x.value)) b.paths (b.located start)
  | .group h bs => by
    rw [Block.paths, Block.located]
    refine .cons rfl ((Block.forall₂_pathsAll 0 (start + 1) bs).imp ?_)
    rintro _ x ⟨j, q, c, rfl, hc, hq⟩
    rw [Nat.zero_add, Node.follow?, Node.children, hc]
    exact hq
  | .entry e => by
    rw [Block.paths, Block.located]
    exact .cons rfl .nil

theorem Block.forall₂_pathsAll (i start : Nat) : (bs : List Block) → List.Forall₂
    (fun p x => Block.Leads i bs p x.value) (Block.pathsAll i bs) (Block.locatedAll start bs)
  | [] => .nil
  | b :: bs => by
    rw [Block.pathsAll, Block.locatedAll]
    refine List.rel_append ?_ ?_
    · refine List.forall₂_map_left_iff.mpr ((Block.forall₂_paths start b).imp fun p x hx => ?_)
      exact ⟨0, p, b, rfl, rfl, hx⟩
    · refine (Block.forall₂_pathsAll (i + 1) (start + b.size) bs).imp ?_
      rintro _ x ⟨j, q, c, rfl, hc, hq⟩
      exact ⟨j + 1, q, c, by rw [Nat.add_assoc, Nat.add_comm 1 j], hc, hq⟩

end

mutual

theorem Block.mem_paths : (b : Block) → ∀ {p : List Nat} {n : Node},
    (Node.block b).follow? p = some n → p ∈ b.paths
  | .group h bs, [], n => fun _ => List.mem_cons_self
  | .group h bs, i :: p, n => fun hn => by
    obtain ⟨c, hc, hp⟩ := Option.bind_eq_some_iff.mp hn
    have hmem := Block.mem_pathsAll 0 bs hc hp
    rw [Nat.zero_add] at hmem
    exact List.mem_cons_of_mem _ hmem
  | .entry e, [], n => fun _ => List.mem_cons_self
  | .entry e, i :: p, n => fun hn => by cases hn

theorem Block.mem_pathsAll (i : Nat) : (bs : List Block) → ∀ {j : Nat} {c : Block} {q : List Nat}
    {n : Node}, bs[j]? = some c → (Node.block c).follow? q = some n →
      (i + j) :: q ∈ Block.pathsAll i bs
  | [], _, _, _, _ => fun hc => by cases hc
  | b :: bs, 0, c, q, n => fun hc hq => by
    obtain rfl := Option.some.inj hc
    exact List.mem_append_left _ (List.mem_map_of_mem (Block.mem_paths b hq))
  | b :: bs, j + 1, c, q, n => fun hc hq => by
    have hmem := Block.mem_pathsAll (i + 1) bs hc hq
    rw [Nat.add_assoc, Nat.add_comm 1 j] at hmem
    exact List.mem_append_right _ hmem

end

theorem Block.exists_of_mem_pathsAll {i : Nat} {bs : List Block} {p : List Nat}
    (h : p ∈ Block.pathsAll i bs) : ∃ j q, p = (i + j) :: q := by
  induction bs generalizing i with
  | nil => cases h
  | cons b bs ih =>
    rcases List.mem_append.mp h with h | h
    · obtain ⟨q, _, rfl⟩ := List.mem_map.mp h
      exact ⟨0, q, rfl⟩
    · obtain ⟨j, q, rfl⟩ := ih h
      exact ⟨1 + j, q, by rw [Nat.add_assoc]⟩

theorem Block.sorted_cons_pathsAll {i : Nat} {bs : List Block}
    (h : (Block.pathsAll i bs).Pairwise (· < ·)) :
    ([] :: Block.pathsAll i bs).Pairwise (· < ·) := by
  refine List.pairwise_cons.mpr ⟨fun p hp => ?_, h⟩
  obtain ⟨j, q, rfl⟩ := Block.exists_of_mem_pathsAll hp
  exact List.nil_lt_cons _ _

mutual

theorem Block.sorted_paths : (b : Block) → b.paths.Pairwise (· < ·)
  | .group h bs => by
    rw [Block.paths]
    exact Block.sorted_cons_pathsAll (Block.sorted_pathsAll 0 bs)
  | .entry e => by
    rw [Block.paths]
    exact List.pairwise_singleton _ _

theorem Block.sorted_pathsAll (i : Nat) : (bs : List Block) →
    (Block.pathsAll i bs).Pairwise (· < ·)
  | [] => List.Pairwise.nil
  | b :: bs => by
    rw [Block.pathsAll]
    refine List.pairwise_append.mpr ⟨?_, Block.sorted_pathsAll (i + 1) bs, fun p hp q hq => ?_⟩
    · refine List.pairwise_map.mpr ((Block.sorted_paths b).imp fun hpq => ?_)
      exact List.cons_lt_cons_iff.mpr (.inr ⟨rfl, hpq⟩)
    · -- the later paths go on with a later child
      obtain ⟨p, _, rfl⟩ := List.mem_map.mp hp
      obtain ⟨j, q, rfl⟩ := Block.exists_of_mem_pathsAll hq
      exact List.cons_lt_cons_iff.mpr (.inl (by omega))

end

/-! ## Numbers -/

mutual

theorem Block.map_index_located (start : Nat) : (b : Block) →
    (b.located start).map (·.index) = List.range' start b.size
  | .group h bs => by
    rw [Block.located, List.map_cons, Block.map_index_locatedAll, Block.size, List.range'_succ]
  | .entry e => by
    rw [Block.located, Block.size]
    rfl

theorem Block.map_index_locatedAll (start : Nat) : (bs : List Block) →
    (Block.locatedAll start bs).map (·.index) = List.range' start (Block.sizeAll bs)
  | [] => rfl
  | b :: bs => by
    rw [Block.locatedAll, List.map_append, Block.map_index_located, Block.map_index_locatedAll,
      Block.sizeAll, List.range'_append_1]

end

namespace Node

theorem map_index_map_block (xs : List (Located Block)) :
    (xs.map (·.map block)).map (·.index) = xs.map (·.index) := by
  rw [List.map_map]
  rfl

/-- The nodes are numbered from 0 in the order of the listing. -/
theorem map_index_located (root : Node) :
    root.located.map (·.index) = List.range root.located.length := by
  have hnumbers : ∃ n, root.located.map (·.index) = List.range n := by
    cases root with
    | list l =>
      refine ⟨Block.sizeAll l.blocks + 1, ?_⟩
      rw [located, List.map_cons, map_index_map_block, SuffixList.located,
        Block.map_index_locatedAll, List.range_eq_range', List.range'_succ]
    | block b =>
      exact ⟨b.size, by rw [located, map_index_map_block, Block.map_index_located,
        List.range_eq_range']⟩
  obtain ⟨n, hn⟩ := hnumbers
  have hlength := congrArg List.length hn
  rw [List.length_map, List.length_range] at hlength
  rw [hn, hlength]

theorem index_of_getElem? {root : Node} {i : Nat} {x : Located Node}
    (h : root.located[i]? = some x) : x.index = i := by
  have hindex : (root.located.map (·.index))[i]? = some x.index := by
    rw [List.getElem?_map, h]
    rfl
  obtain ⟨hi, -⟩ := List.getElem?_eq_some_iff.mp h
  rw [map_index_located, List.getElem?_range hi] at hindex
  exact (Option.some.inj hindex).symm

theorem getElem?_index {root : Node} {x : Located Node} (h : x ∈ root.located) :
    root.located[x.index]? = some x := by
  obtain ⟨i, hi⟩ := List.mem_iff_getElem?.mp h
  rw [index_of_getElem? hi, hi]

theorem increasing_located (root : Node) : Increasing root.located := by
  have hlt : (root.located.map (·.index)).Pairwise (· < ·) := by
    rw [map_index_located]
    exact List.pairwise_lt_range
  exact List.pairwise_map.mp hlt

/-! ## The listing of a tree -/

/-- Every path leads to the node that is listed in its place. -/
theorem map_follow?_paths (root : Node) :
    root.paths.map root.follow? = root.located.map fun x => some x.value := by
  suffices h : List.Forall₂ (fun p x => root.follow? p = some x.value) root.paths root.located by
    rw [← List.forall₂_eq_eq_eq]
    exact List.forall₂_map_left_iff.mpr (List.forall₂_map_right_iff.mpr h)
  cases root with
  | list l =>
    refine .cons rfl (List.forall₂_map_right_iff.mpr ?_)
    refine (Block.forall₂_pathsAll 0 1 l.blocks).imp ?_
    rintro _ x ⟨j, q, c, rfl, hc, hq⟩
    rw [Nat.zero_add, follow?, children, hc]
    exact hq
  | block b => exact List.forall₂_map_right_iff.mpr (Block.forall₂_paths 0 b)

theorem exists_follow?_of_mem_paths {root : Node} {p : List Nat} (h : p ∈ root.paths) :
    ∃ n, root.follow? p = some n := by
  have hmem : root.follow? p ∈ root.located.map fun x => some x.value := by
    rw [← map_follow?_paths]
    exact List.mem_map_of_mem h
  obtain ⟨x, _, hx⟩ := List.mem_map.mp hmem
  exact ⟨x.value, hx.symm⟩

theorem mem_paths_of_follow? {root n : Node} {p : List Nat} (h : root.follow? p = some n) :
    p ∈ root.paths := by
  cases root with
  | list l =>
    cases p with
    | nil => exact List.mem_cons_self
    | cons i p =>
      obtain ⟨c, hc, hp⟩ := Option.bind_eq_some_iff.mp h
      have hmem := Block.mem_pathsAll 0 l.blocks hc hp
      rw [Nat.zero_add] at hmem
      exact List.mem_cons_of_mem _ hmem
  | block b => exact Block.mem_paths b h

theorem sorted_paths (root : Node) : root.paths.Pairwise (· < ·) := by
  cases root with
  | list l => exact Block.sorted_cons_pathsAll (Block.sorted_pathsAll 0 l.blocks)
  | block b => exact Block.sorted_paths b

theorem preorder_paths (root : Node) : root.Preorder root.paths :=
  ⟨root.sorted_paths,
    fun _ => ⟨exists_follow?_of_mem_paths, fun ⟨_, hn⟩ => mem_paths_of_follow? hn⟩⟩

/-- A node is in the listing if the path in its place leads to it. -/
theorem mem_located_iff {root : Node} {x : Located Node} : x ∈ root.located ↔
    ∃ p, root.paths[x.index]? = some p ∧ root.follow? p = some x.value := by
  have hplace : (root.paths[x.index]?).map root.follow? =
      (root.located[x.index]?).map fun y => some y.value := by
    rw [← List.getElem?_map, map_follow?_paths, List.getElem?_map]
  constructor
  · intro hx
    rw [getElem?_index hx] at hplace
    exact Option.map_eq_some_iff.mp hplace
  · rintro ⟨p, hp, hvalue⟩
    rw [hp, Option.map_some, hvalue] at hplace
    obtain ⟨y, hy, hxy⟩ := Option.map_eq_some_iff.mp hplace.symm
    have hindex := index_of_getElem? hy
    obtain ⟨i, v⟩ := x
    obtain ⟨j, w⟩ := y
    cases hindex
    cases hxy
    exact List.mem_of_getElem? hy

end Node

end PublicSuffix
