import PublicSuffix.Proofs.Document.Nesting
import PublicSuffix.Proofs.Document.Paths

/-!
# Walks that begin within a list

What lies at or below a node of a list are the nodes whose paths begin with that of the node
(`mem_below_iff_path`). For in the paths of the list those of the node's own tree stand together,
each behind the path of the node (`Block.exists_paths_eq`). So a walk that begins at the node finds
what it would find in the tree of the node alone, only with other numbers (`Block.located_add`).
-/

namespace PublicSuffix

/-- A path goes on where its beginning has led. -/
theorem Node.follow?_append (n : Node) (p q : List Nat) :
    n.follow? (p ++ q) = (n.follow? p).bind fun m => m.follow? q := by
  induction p generalizing n with
  | nil => rfl
  | cons i p ih =>
    rw [List.cons_append, follow?, follow?]
    cases n.children[i]? with
    | none => rfl
    | some c => exact ih (.block c)

/-! ## The paths of a subtree -/

theorem Block.length_paths (b : Block) : b.paths.length = b.size := by
  have hnumbers := congrArg List.length (b.map_index_located 0)
  rw [List.length_map, List.length_range'] at hnumbers
  exact (Block.forall₂_paths 0 b).length_eq.trans hnumbers

mutual

theorem Block.exists_paths_eq {start : Nat} {b : Located Block} :
    (r : Block) → b ∈ r.located start → ∃ p before after,
      r.paths = before ++ (b.value.paths.map (p ++ ·) ++ after) ∧
        b.index = start + before.length
  | .group h bs => by
    intro hb
    rw [Block.located, List.mem_cons] at hb
    rcases hb with rfl | hb
    · exact ⟨[], [], [], by simp, rfl⟩
    · obtain ⟨p, before, after, hpaths, hindex⟩ := Block.exists_pathsAll_eq 0 bs hb
      refine ⟨p, [] :: before, after, ?_, ?_⟩
      · rw [Block.paths, hpaths, List.cons_append]
      · rw [hindex, List.length_cons]
        omega
  | .entry e => by
    intro hb
    rw [Block.located, List.mem_singleton] at hb
    subst hb
    exact ⟨[], [], [], by simp, rfl⟩

theorem Block.exists_pathsAll_eq {start : Nat} {b : Located Block} (i : Nat) :
    (bs : List Block) → b ∈ Block.locatedAll start bs → ∃ p before after,
      Block.pathsAll i bs = before ++ (b.value.paths.map (p ++ ·) ++ after) ∧
        b.index = start + before.length
  | [] => by simp [Block.locatedAll]
  | c :: bs => by
    intro hb
    rw [Block.locatedAll, List.mem_append] at hb
    rcases hb with hb | hb
    · obtain ⟨p, before, after, hpaths, hindex⟩ := Block.exists_paths_eq c hb
      refine ⟨i :: p, before.map (i :: ·), after.map (i :: ·) ++ Block.pathsAll (i + 1) bs, ?_, ?_⟩
      · simp only [Block.pathsAll, hpaths, List.map_append, List.map_map, List.append_assoc]
        rfl
      · rw [hindex, List.length_map]
    · obtain ⟨p, before, after, hpaths, hindex⟩ := Block.exists_pathsAll_eq (i + 1) bs hb
      refine ⟨p, c.paths.map (i :: ·) ++ before, after, ?_, ?_⟩
      · rw [Block.pathsAll, hpaths, List.append_assoc]
      · rw [hindex, List.length_append, List.length_map, c.length_paths]
        omega

end

namespace SuffixList

variable {l : SuffixList} {b x : Located Block} {p : List Nat}

/-- The node of a block in the listing of all nodes. -/
theorem map_block_mem_located : b.map Node.block ∈ (Node.list l).located ↔ b ∈ l.located := by
  have hinj : Function.Injective (Located.map Node.block) := fun b c h => by
    cases b
    cases c
    cases h
    rfl
  rw [Node.located, List.mem_cons, List.mem_map_of_injective hinj]
  exact or_iff_right fun h => by cases congrArg Located.value h

theorem mem_located_iff_path : b ∈ l.located ↔
    ∃ p, (Node.list l).paths[b.index]? = some p ∧
      (Node.list l).follow? p = some (.block b.value) := by
  rw [← map_block_mem_located, Node.mem_located_iff]
  rfl

/-- From the number of a node on, the paths are its own, behind the one that leads to it. -/
theorem getElem?_paths (hb : b ∈ l.located) (hp : (Node.list l).paths[b.index]? = some p) {j : Nat}
    (hj : j < b.value.size) :
    (Node.list l).paths[b.index + j]? = b.value.paths[j]?.map (p ++ ·) := by
  obtain ⟨q, before, after, hpaths, hindex⟩ := Block.exists_pathsAll_eq 0 l.blocks hb
  have hplace : ∀ j < b.value.size,
      (Node.list l).paths[b.index + j]? = b.value.paths[j]?.map (q ++ ·) := by
    intro j hj
    have hnumber : b.index + j = before.length + j + 1 := by omega
    rw [hnumber, Node.paths, List.getElem?_cons_succ, hpaths,
      List.getElem?_append_right (Nat.le_add_right _ _), Nat.add_sub_cancel_left,
      List.getElem?_append_left (by rwa [List.length_map, Block.length_paths]), List.getElem?_map]
  -- the first path of a subtree is the empty one, so the two beginnings are the same
  have hroot : b.value.paths[0]? = some [] := by
    cases b.value with
    | group h bs => rw [Block.paths]; rfl
    | entry e => rw [Block.paths]; rfl
  have hq := hplace 0 b.value.size_pos
  rw [Nat.add_zero, hp, hroot, Option.map_some, List.append_nil] at hq
  rw [hplace j hj, Option.some.inj hq]

/-- **What lies below a node** are the nodes whose paths begin with its path. -/
theorem mem_below_iff_path (hb : b ∈ l.located)
    (hp : (Node.list l).paths[b.index]? = some p) :
    x ∈ b.below ↔ x ∈ l.located ∧ ∃ q, (Node.list l).paths[x.index]? = some (p ++ q) := by
  rw [mem_below_iff hb]
  refine and_congr_right fun hx => ⟨?_, ?_⟩
  · rintro ⟨hle, hlt⟩
    have hj : x.index - b.index < b.value.size := by
      rw [Located.stop] at hlt
      omega
    have hpath := getElem?_paths hb hp hj
    rw [Nat.add_sub_cancel' hle] at hpath
    rw [hpath, List.getElem?_eq_getElem (by rwa [Block.length_paths])]
    exact ⟨_, rfl⟩
  · rintro ⟨q, hq⟩
    obtain ⟨_, hp', hb'⟩ := mem_located_iff_path.mp hb
    obtain ⟨_, hq', hx'⟩ := mem_located_iff_path.mp hx
    obtain rfl := Option.some.inj (hp.symm.trans hp')
    obtain rfl := Option.some.inj (hq.symm.trans hq')
    rw [Node.follow?_append, hb', Option.bind_some] at hx'
    obtain ⟨j, hj, hget⟩ := List.mem_iff_getElem.mp (Block.mem_paths b.value hx')
    have hsize : j < b.value.size := Block.length_paths b.value ▸ hj
    have hplace := getElem?_paths hb hp hsize
    rw [List.getElem?_eq_getElem hj, hget, Option.map_some] at hplace
    -- no path occurs twice
    have hindex : x.index = b.index + j := by
      obtain ⟨hlt, hx⟩ := List.getElem?_eq_some_iff.mp hq
      obtain ⟨hlt', hj⟩ := List.getElem?_eq_some_iff.mp hplace
      have hnodup : (Node.list l).paths.Nodup := by
        refine (Node.list l).sorted_paths.imp ?_
        rintro p _ hlt rfl
        exact List.lt_irrefl p hlt
      exact hnodup.getElem_inj_iff.mp (hx.trans hj.symm)
    rw [Located.stop]
    omega

/-- What a walk from a node finds: whatever it recognises behind the path of the node. -/
theorem mem_select_below_iff_path {β : Type} {f : Block → Option β} {x : Located β}
    (hb : b ∈ l.located) (hp : (Node.list l).paths[b.index]? = some p) :
    x ∈ select f b.below ↔ ∃ q c, (Node.list l).paths[x.index]? = some (p ++ q) ∧
      (Node.list l).follow? (p ++ q) = some (.block c) ∧ f c = some x.value := by
  rw [mem_select]
  constructor
  · rintro ⟨c, hc, hf⟩
    obtain ⟨hmem, q, hq⟩ := (mem_below_iff_path hb hp).mp hc
    obtain ⟨_, hq', hfollow⟩ := mem_located_iff_path.mp hmem
    obtain rfl := Option.some.inj (hq.symm.trans hq')
    exact ⟨q, c, hq, hfollow, hf⟩
  · rintro ⟨q, c, hq, hfollow, hf⟩
    have hmem : ⟨x.index, c⟩ ∈ l.located := mem_located_iff_path.mpr ⟨_, hq, hfollow⟩
    exact ⟨c, (mem_below_iff_path hb hp).mpr ⟨hmem, q, hq⟩, hf⟩

end SuffixList

/-! ## The numbers of a subtree -/

/-- The same thing with a number that is greater by `n`. -/
def Located.shift {α : Type} (n : Nat) (x : Located α) : Located α := ⟨n + x.index, x.value⟩

mutual

theorem Block.located_add (n m : Nat) :
    (b : Block) → b.located (n + m) = (b.located m).map (Located.shift n)
  | .group h bs => by
    rw [Block.located, Block.located, List.map_cons, Nat.add_assoc, Block.locatedAll_add]
    rfl
  | .entry e => by
    rw [Block.located, Block.located]
    rfl

theorem Block.locatedAll_add (n m : Nat) : (bs : List Block) →
    Block.locatedAll (n + m) bs = (Block.locatedAll m bs).map (Located.shift n)
  | [] => rfl
  | b :: bs => by
    rw [Block.locatedAll, Block.locatedAll, List.map_append, Block.located_add, Nat.add_assoc,
      Block.locatedAll_add]

end

/-- A walk that begins at a node counts on from its number. -/
theorem Located.below_eq (b : Located Block) :
    b.below = (b.value.located 0).map (Located.shift b.index) := by
  rw [below, ← Block.located_add, Nat.add_zero]

end PublicSuffix
