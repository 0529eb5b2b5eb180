import PublicSuffix.Proofs.Document.Subtrees

/-!
# Walks for nodes of one kind

`walks_preorder`: asking a tree for a kind gives the nodes of this kind, the root included, in the
order of their paths, each with the number that it has among all nodes. Every node is found for one
kind only. What the rules look at are such walks, and the first section of a name is the least of
those that are found.

`Root.collect` is the walk from node to node, with a running number and all that was found so far.
It may begin at a block or at what stands in the block, taken out of it: the block adds nothing of
its own. That it finds what is selected from the listing (`collect_eq_ofKind`) is an induction over
the blocks, in which the state of the walk is given (`visit_eq`). The rules also walk from nodes
within a list, and find there what the walk of the node's own tree finds (`map_index_select_below`).
-/

namespace PublicSuffix

/-! ## What a block is recognised as -/

theorem Block.isSome_section? (b : Block) : b.section?.isSome = (b.kind == .sectionHeading) := by
  rcases b with ⟨_ | _, _⟩ | (_ | _ | _) <;> rfl

theorem Block.isSome_entity? (b : Block) : b.entity?.isSome = (b.kind == .entityHeading) := by
  rcases b with ⟨_ | _, _⟩ | (_ | _ | _) <;> rfl

theorem Block.isSome_suffix? (b : Block) : b.suffix?.isSome = (b.kind == .suffix) := by
  rcases b with ⟨_ | _, _⟩ | (_ | _ | _) <;> rfl

theorem Block.isSome_wildcard? (b : Block) : b.wildcard?.isSome = (b.kind == .wildcard) := by
  rcases b with ⟨_ | _, _⟩ | (_ | _ | _) <;> rfl

/-! ## The walk from node to node -/

/-- Where a walk may begin: at a list, at a block, or at what stands in a block. -/
inductive Root where
  | list (l : SuffixList)
  | block (b : Block)
  | heading (h : Heading) (blocks : List Block)
  | entry (e : Entry)

def Heading.kind : Heading → Kind
  | .ofSection _ => .sectionHeading
  | .ofEntity _ => .entityHeading

def Entry.kind : Entry → Kind
  | .ofSuffix _ => .suffix
  | .ofWildcard _ => .wildcard
  | .ofComment _ => .comment

namespace Root

/-- The kind of a root. That of a block is the one of what stands in it. -/
def kind : Root → Kind
  | .list _ => .list
  | .block (.group h _) | .heading h _ => h.kind
  | .block (.entry e) | .entry e => e.kind

/-- The blocks directly below a root. -/
def children : Root → List Block
  | .list l => l.blocks
  | .block (.group _ bs) | .heading _ bs => bs
  | .block (.entry _) | .entry _ => []

/-- The node at which a root stands. -/
def node : Root → Node
  | .list l => .list l
  | .block b => .block b
  | .heading h bs => .block (.group h bs)
  | .entry e => .block (.entry e)

/-- The state of a walk: the number of the next node, and what was found. -/
abbrev State := Nat × List (Located Node)

/-- Looks at a node. -/
def note (k : Kind) (s : State) (r : Root) : State :=
  (s.1 + 1, if r.kind = k then s.2 ++ [⟨s.1, r.node⟩] else s.2)

mutual

/-- Looks at what stands in a block and then visits the blocks below it. -/
def visit (k : Kind) (s : State) : Block → State
  | .group h bs => visitAll k (note k s (.heading h bs)) bs
  | .entry e => note k s (.entry e)

/-- Visits blocks in turn. -/
def visitAll (k : Kind) (s : State) : List Block → State
  | [] => s
  | b :: bs => visitAll k (visit k s b) bs

end

/-- All that a walk finds. -/
def collect (k : Kind) (r : Root) : List (Located Node) :=
  (visitAll k (note k (0, []) r) r.children).2

theorem kind_node (r : Root) : r.node.kind = r.kind := by
  have hgroup : ∀ h bs, (Block.group h bs).kind = h.kind := by rintro (_ | _) _ <;> rfl
  have hentry : ∀ e, (Block.entry e).kind = e.kind := by rintro (_ | _ | _) <;> rfl
  cases r with
  | list l => rfl
  | block b =>
    cases b with
    | group h bs => exact hgroup h bs
    | entry e => exact hentry e
  | heading h bs => exact hgroup h bs
  | entry e => exact hentry e

/-- The nodes of a kind, out of a listing of blocks. -/
def pick (k : Kind) (xs : List (Located Block)) : List (Located Node) :=
  (xs.map (·.map Node.block)).filter fun x => x.value.kind == k

theorem pick_append (k : Kind) (xs ys : List (Located Block)) :
    pick k (xs ++ ys) = pick k xs ++ pick k ys := by
  rw [pick, List.map_append, List.filter_append]
  rfl

theorem note_eq (k : Kind) (n : Nat) (found : List (Located Node)) (r : Root) :
    note k (n, found) r =
      (n + 1, found ++ [⟨n, r.node⟩].filter fun x => x.value.kind == k) := by
  rw [note, List.filter_singleton, kind_node]
  cases h : r.kind == k with
  | true => rw [if_pos (beq_iff_eq.mp h), cond_true]
  | false => rw [if_neg (beq_eq_false_iff_ne.mp h), cond_false, List.append_nil]

mutual

/-- A visit adds the nodes of the block to what was found, and counts them. -/
theorem visit_eq (k : Kind) (n : Nat) (found : List (Located Node)) : (b : Block) →
    visit k (n, found) b = (n + b.size, found ++ pick k (b.located n))
  | .group h bs => by
    have hcons : pick k (Block.located n (.group h bs)) =
        ([⟨n, .block (.group h bs)⟩].filter fun x => x.value.kind == k) ++
          pick k (Block.locatedAll (n + 1) bs) := pick_append k [_] _
    rw [visit, note_eq, visitAll_eq, hcons, Block.size, List.append_assoc]
    exact congrArg (·, _) (by omega)
  | .entry e => note_eq k n found (.entry e)

theorem visitAll_eq (k : Kind) (n : Nat) (found : List (Located Node)) : (bs : List Block) →
    visitAll k (n, found) bs =
      (n + Block.sizeAll bs, found ++ pick k (Block.locatedAll n bs))
  | [] => by rw [visitAll, Block.locatedAll, Block.sizeAll, pick, List.map_nil, List.filter_nil,
      List.append_nil, Nat.add_zero]
  | b :: bs => by
    rw [visitAll, visit_eq, visitAll_eq, Block.sizeAll, Block.locatedAll, pick_append,
      List.append_assoc, Nat.add_assoc]

end

/-- A walk finds what is selected from the listing, also if it begins within a block. -/
theorem collect_eq_ofKind (r : Root) (k : Kind) : r.collect k = r.node.ofKind k := by
  have hblock : ∀ b, visit k (0, []) b = (b.size, (Node.block b).ofKind k) := fun b => by
    rw [visit_eq, Nat.zero_add, List.nil_append]
    rfl
  cases r with
  | list l =>
    rw [collect, note_eq, visitAll_eq]
    exact (List.filter_append _ _).symm
  | block b =>
    cases b with
    | group h bs => exact congrArg Prod.snd (hblock (.group h bs))
    | entry e => exact congrArg Prod.snd (hblock (.entry e))
  | heading h bs => exact congrArg Prod.snd (hblock (.group h bs))
  | entry e => exact congrArg Prod.snd (hblock (.entry e))

theorem pick_shift (k : Kind) (n : Nat) (xs : List (Located Block)) :
    pick k (xs.map (Located.shift n)) = (pick k xs).map (Located.shift n) := by
  rw [pick, pick, List.map_map, List.filter_map, List.filter_map, List.map_map]
  rfl

/-- What is recognised as being of a kind is what is picked for the kind. -/
theorem map_index_select {β : Type} {f : Block → Option β} {k : Kind}
    (hf : ∀ b, (f b).isSome = (b.kind == k)) (xs : List (Located Block)) :
    (select f xs).map (·.index) = (pick k xs).map (·.index) := by
  rw [select]
  induction xs with
  | nil => rfl
  | cons x xs ih =>
    have hx : (f x.value).isSome = ((x.map Node.block).value.kind == k) := hf x.value
    rw [List.filterMap_cons, pick, List.map_cons, List.filter_cons, ← hx]
    cases f x.value with
    | none => exact ih
    | some v => exact congrArg (x.index :: ·) ih

theorem map_index_select_located (l : SuffixList) {β : Type} {f : Block → Option β} {k : Kind}
    (hf : ∀ b, (f b).isSome = (b.kind == k)) (hk : k ≠ .list) :
    (select f l.located).map (·.index) = ((Node.list l).ofKind k).map (·.index) := by
  have hlist : (Node.list l).ofKind k = pick k l.located :=
    List.filter_cons_of_neg fun h => hk (beq_iff_eq.mp h).symm
  rw [hlist, map_index_select hf]

theorem map_index_select_below (b : Located Block) {β : Type} {f : Block → Option β} {k : Kind}
    (hf : ∀ b, (f b).isSome = (b.kind == k)) :
    (select f b.below).map (·.index) =
      ((Root.block b.value).collect k).map (b.index + ·.index) := by
  rw [map_index_select hf, b.below_eq, pick_shift, collect_eq_ofKind, List.map_map]
  rfl

end Root

namespace Node

variable {root : Node} {k : Kind} {x : Located Node}

theorem mem_ofKind : x ∈ root.ofKind k ↔ x ∈ root.located ∧ x.value.kind = k := by
  rw [ofKind, List.mem_filter, beq_iff_eq]

theorem kind_ne_block (n : Node) : n.kind ≠ .block := by
  rcases n with _ | ((_ | _) | (_ | _ | _)) <;> nofun

theorem ofKind_block (root : Node) : root.ofKind .block = [] :=
  List.filter_eq_nil_iff.mpr fun x _ hx => x.value.kind_ne_block (beq_iff_eq.mp hx)

theorem increasing_ofKind (root : Node) (k : Kind) : Increasing (root.ofKind k) :=
  root.increasing_located.filter _

/-- Every number is found once, for the kind of the node that has it. -/
theorem existsUnique_kind {i : Nat} (h : i < root.paths.length) :
    ∃! k, ∃ x ∈ root.ofKind k, x.index = i := by
  obtain ⟨n, hn⟩ := exists_follow?_of_mem_paths (List.getElem_mem h)
  have hmem : ⟨i, n⟩ ∈ root.located :=
    mem_located_iff.mpr ⟨root.paths[i], List.getElem?_eq_getElem h, hn⟩
  refine ⟨n.kind, ⟨⟨i, n⟩, mem_ofKind.mpr ⟨hmem, rfl⟩, rfl⟩, ?_⟩
  rintro k ⟨x, hx, hindex⟩
  obtain ⟨hlocated, rfl⟩ := mem_ofKind.mp hx
  rw [root.increasing_located.eq_of_index_eq hlocated hmem hindex]

end Node

namespace SuffixList

variable {l : SuffixList} {name : String} {b : Located Block}

/-- A section of the list with a certain name, at whatever depth. -/
def IsSection (l : SuffixList) (name : String) (b : Located Block) : Prop :=
  b.map Node.block ∈ (Node.list l).ofKind .sectionHeading ∧
    ∃ s, b.value.section? = some s ∧ s.name = name

theorem isSection_iff : l.IsSection name b ↔ b ∈ l.located ∧ b.value.opensSection name = true := by
  rw [IsSection, Node.mem_ofKind, map_block_mem_located, Block.opensSection_iff, and_assoc]
  refine and_congr_right fun _ => and_iff_right_of_imp ?_
  rintro ⟨s, hs, _⟩
  have hkind := b.value.isSome_section?
  rw [hs, Option.isSome_some] at hkind
  exact beq_iff_eq.mp hkind.symm

theorem section?_eq_some_iff_isSection : l.section? name = some b ↔
    l.IsSection name b ∧ ∀ c, l.IsSection name c → b.index ≤ c.index := by
  simp only [isSection_iff, section?, l.increasing_located.find?_eq_some_iff, and_assoc, and_imp]

theorem section?_eq_none_iff_isSection :
    l.section? name = none ↔ ∀ b, ¬l.IsSection name b := by
  simp only [isSection_iff, section?, List.find?_eq_none, not_and]

/-- What walks find that begin at a node of the list, to which the path `p` leads: all that lies
behind this path, and in the tree of the node. -/
structure WalksBelow (l : SuffixList) (paths : List (List Nat)) (b : Located Block)
    (p : List Nat) : Prop where
  place : paths[b.index]? = some p
  leads : (Node.list l).follow? p = some (.block b.value)
  increasing : Increasing b.below
  mem_iff : ∀ x, x ∈ b.below ↔ x ∈ l.located ∧ ∃ q, paths[x.index]? = some (p ++ q)
  mem_select_iff : ∀ (β : Type) (f : Block → Option β) (x : Located β), x ∈ select f b.below ↔
    ∃ q c, paths[x.index]? = some (p ++ q) ∧
      (Node.list l).follow? (p ++ q) = some (.block c) ∧ f c = some x.value
  entities : (select Block.entity? b.below).map (·.index) =
    ((Root.block b.value).collect .entityHeading).map (b.index + ·.index)
  suffixes : (select Block.suffix? b.below).map (·.index) =
    ((Root.block b.value).collect .suffix).map (b.index + ·.index)
  wildcards : (select Block.wildcard? b.below).map (·.index) =
    ((Root.block b.value).collect .wildcard).map (b.index + ·.index)

theorem exists_walksBelow (hb : b ∈ l.located) : ∃ p, l.WalksBelow (Node.list l).paths b p := by
  obtain ⟨p, hp, hfollow⟩ := mem_located_iff_path.mp hb
  exact ⟨p, {
    place := hp
    leads := hfollow
    increasing := b.increasing_below
    mem_iff := fun _ => mem_below_iff_path hb hp
    mem_select_iff := fun _ _ _ => mem_select_below_iff_path hb hp
    entities := Root.map_index_select_below b Block.isSome_entity?
    suffixes := Root.map_index_select_below b Block.isSome_suffix?
    wildcards := Root.map_index_select_below b Block.isSome_wildcard? }⟩

end SuffixList

/-- **Walks find the nodes of a kind in preorder.** Every node of the kind is found, at the number
of its path, and nothing else; nothing is found twice; no node is a mere block, and every node has
one of the other kinds. So the section of a name is the first one that has it, wherever it lies. A
walk that begins within a list finds what lies behind the path of the node where it begins. -/
theorem walks_preorder :
    (∀ r : Root, ∃ paths, r.node.Preorder paths ∧
      (∀ k, r.collect k = r.node.ofKind k) ∧
      (∀ k x, x ∈ r.node.ofKind k ↔ x.value.kind = k ∧
        ∃ p, paths[x.index]? = some p ∧ r.node.follow? p = some x.value) ∧
      (∀ k, Increasing (r.node.ofKind k)) ∧
      r.node.ofKind .block = [] ∧
      ∀ i, i < paths.length → ∃! k, ∃ x ∈ r.node.ofKind k, x.index = i) ∧
    (∀ (l : SuffixList) (name : String),
      (∀ b, l.section? name = some b ↔
        l.IsSection name b ∧ ∀ c, l.IsSection name c → b.index ≤ c.index) ∧
      (l.section? name = none ↔ ∀ b, ¬l.IsSection name b) ∧
      l.sections.map (·.index) = ((Node.list l).ofKind .sectionHeading).map (·.index) ∧
      l.suffixes.map (·.index) = ((Node.list l).ofKind .suffix).map (·.index) ∧
      l.wildcards.map (·.index) = ((Node.list l).ofKind .wildcard).map (·.index)) ∧
    ∀ l : SuffixList, ∃ paths, (Node.list l).Preorder paths ∧
      ∀ b ∈ l.located, ∃ p, l.WalksBelow paths b p := by
  refine ⟨fun r => ⟨r.node.paths, r.node.preorder_paths, r.collect_eq_ofKind, fun k x => ?_,
    r.node.increasing_ofKind, r.node.ofKind_block, fun i => Node.existsUnique_kind⟩,
    fun l name => ?_,
    fun l => ⟨(Node.list l).paths, (Node.list l).preorder_paths,
      fun _ => SuffixList.exists_walksBelow⟩⟩
  · rw [Node.mem_ofKind, Node.mem_located_iff, and_comm]
  · refine ⟨fun b => SuffixList.section?_eq_some_iff_isSection,
      SuffixList.section?_eq_none_iff_isSection, ?_, ?_, ?_⟩
    · exact Root.map_index_select_located l Block.isSome_section? nofun
    · exact Root.map_index_select_located l Block.isSome_suffix? nofun
    · exact Root.map_index_select_located l Block.isSome_wildcard? nofun

end PublicSuffix
