import PublicSuffix.Document.Walk
import Mathlib.Data.List.Forall2
import Mathlib.Logic.Function.Basic

/-!
# Lists with more comments

`SuffixList.Commented` relates a list to those that come from it by putting comments in, anywhere
and as many as one likes. The other nodes of the two lists are the same in the same order, but their
numbers differ. They are matched by a renumbering, and what lies below matched nodes is matched by
the same one (`Located.Twin.below`). So a walk that does not look at comments finds the same in both
lists, up to the renumbering (`Alike.select`, `Alike.filter`).

A renumbering is put together from the end of the list: each node adds its own number to the
renumbering of what comes after it, which does not change that one (`Block.TwinAll.congr`).
-/

namespace PublicSuffix

/-! ## Putting comments in -/

mutual

/-- `c` is `b` with comments put in somewhere below it. -/
inductive Block.Commented : Block → Block → Prop where
  | group (h : Heading) {bs cs : List Block} (hbs : Block.CommentedAll bs cs) :
    Block.Commented (.group h bs) (.group h cs)
  | entry (e : Entry) : Block.Commented (.entry e) (.entry e)

/-- `cs` are the blocks `bs` with comments put in between them and below them. -/
inductive Block.CommentedAll : List Block → List Block → Prop where
  | nil : Block.CommentedAll [] []
  | cons {b c : Block} {bs cs : List Block} (hb : b.Commented c) (hbs : Block.CommentedAll bs cs) :
    Block.CommentedAll (b :: bs) (c :: cs)
  | comment (x : Comment) {bs cs : List Block} (hbs : Block.CommentedAll bs cs) :
    Block.CommentedAll bs (.entry (.ofComment x) :: cs)

end

/-- `m` is `l` with comments put in. -/
def SuffixList.Commented (l m : SuffixList) : Prop := Block.CommentedAll l.blocks m.blocks

/-! ## Renumberings -/

mutual

/-- `c`, numbered from `j` on, is `b`, numbered from `i` on, with comments put in, and `φ` takes the
numbers of the one to those of the other. -/
inductive Block.Twin (φ : Nat → Nat) : Nat → Block → Nat → Block → Prop where
  | group {i j : Nat} (hij : φ i = j) (h : Heading) {bs cs : List Block}
    (hbs : Block.TwinAll φ (i + 1) bs (j + 1) cs) : Block.Twin φ i (.group h bs) j (.group h cs)
  | entry {i j : Nat} (hij : φ i = j) (e : Entry) : Block.Twin φ i (.entry e) j (.entry e)

inductive Block.TwinAll (φ : Nat → Nat) : Nat → List Block → Nat → List Block → Prop where
  | nil {i j : Nat} : Block.TwinAll φ i [] j []
  | cons {i j : Nat} {b c : Block} {bs cs : List Block} (hb : Block.Twin φ i b j c)
    (hbs : Block.TwinAll φ (i + b.size) bs (j + c.size) cs) :
    Block.TwinAll φ i (b :: bs) j (c :: cs)
  | comment (x : Comment) {i j : Nat} {bs cs : List Block}
    (hbs : Block.TwinAll φ i bs (j + 1) cs) :
    Block.TwinAll φ i bs j (.entry (.ofComment x) :: cs)

end

mutual

theorem Block.Twin.congr {φ ψ : Nat → Nat} {i j : Nat} {b c : Block}
    (hφ : ∀ k, i ≤ k → φ k = ψ k) : Block.Twin φ i b j c → Block.Twin ψ i b j c
  | .group hij h hbs =>
    .group ((hφ i (Nat.le_refl i)).symm.trans hij) h
      (hbs.congr fun k hk => hφ k (Nat.le_of_succ_le hk))
  | .entry hij e => .entry ((hφ i (Nat.le_refl i)).symm.trans hij) e

/-- Only the numbers from the first node on matter. -/
theorem Block.TwinAll.congr {φ ψ : Nat → Nat} {i j : Nat} {bs cs : List Block}
    (hφ : ∀ k, i ≤ k → φ k = ψ k) : Block.TwinAll φ i bs j cs → Block.TwinAll ψ i bs j cs
  | .nil => .nil
  | .cons hb hbs => .cons (hb.congr hφ) (hbs.congr fun k hk => hφ k (by omega))
  | .comment x hbs => .comment x (hbs.congr hφ)

end

mutual

/-- Blocks with comments put in can be renumbered, whatever the numbers after them become. -/
theorem Block.Commented.exists_twin {b c : Block} (i j : Nat) (ψ : Nat → Nat) :
    b.Commented c → ∃ φ, (∀ k, i + b.size ≤ k → φ k = ψ k) ∧ Block.Twin φ i b j c
  | .group h hbs => by
    obtain ⟨φ, hφ, htwin⟩ := hbs.exists_twinAll (i + 1) (j + 1) ψ
    refine ⟨Function.update φ i j, fun k hk => ?_, .group (Function.update_self i j φ) h ?_⟩
    · rw [Block.size] at hk
      have hne : k ≠ i := by omega
      rw [Function.update_of_ne hne, hφ k (by omega)]
    · refine htwin.congr fun k hk => ?_
      have hne : k ≠ i := by omega
      rw [Function.update_of_ne hne]
  | .entry e => by
    refine ⟨Function.update ψ i j, fun k hk => ?_, .entry (Function.update_self i j ψ) e⟩
    rw [Block.size] at hk
    have hne : k ≠ i := by omega
    exact Function.update_of_ne hne j ψ

theorem Block.CommentedAll.exists_twinAll {bs cs : List Block} (i j : Nat) (ψ : Nat → Nat) :
    Block.CommentedAll bs cs →
      ∃ φ, (∀ k, i + Block.sizeAll bs ≤ k → φ k = ψ k) ∧ Block.TwinAll φ i bs j cs
  | .nil => ⟨ψ, fun _ _ => rfl, .nil⟩
  | .cons (b := b) (c := c) hb hbs => by
    obtain ⟨χ, hχ, hrest⟩ := hbs.exists_twinAll (i + b.size) (j + c.size) ψ
    obtain ⟨φ, hφ, hfirst⟩ := hb.exists_twin i j χ
    refine ⟨φ, fun k hk => ?_, .cons hfirst (hrest.congr fun k hk => (hφ k hk).symm)⟩
    rw [Block.sizeAll] at hk
    rw [hφ k (by omega), hχ k (by omega)]
  | .comment x hbs => by
    obtain ⟨φ, hφ, hrest⟩ := hbs.exists_twinAll i (j + 1) ψ
    exact ⟨φ, hφ, .comment x hrest⟩

end

mutual

theorem Block.Twin.commented {φ : Nat → Nat} {i j : Nat} {b c : Block} :
    Block.Twin φ i b j c → b.Commented c
  | .group _ h hbs => .group h hbs.commentedAll
  | .entry _ e => .entry e

theorem Block.TwinAll.commentedAll {φ : Nat → Nat} {i j : Nat} {bs cs : List Block} :
    Block.TwinAll φ i bs j cs → Block.CommentedAll bs cs
  | .nil => .nil
  | .cons hb hbs => .cons hb.commented hbs.commentedAll
  | .comment x hbs => .comment x hbs.commentedAll

end

theorem Block.Twin.index_eq {φ : Nat → Nat} {i j : Nat} {b c : Block}
    (h : Block.Twin φ i b j c) : j = φ i := by
  cases h with
  | group hij _ _ => exact hij.symm
  | entry hij _ => exact hij.symm

/-! ## Nodes other than comments -/

/-- The nodes of a listing that are no comments. -/
def withoutComments (xs : List (Located Block)) : List (Located Block) :=
  xs.filter fun x => x.value.comment?.isNone

/-- The nodes `x` and `y` are matched by `φ`. -/
def Located.Twin (φ : Nat → Nat) (x y : Located Block) : Prop :=
  Block.Twin φ x.index x.value y.index y.value

/-- The listings `xs` and `ys` have the same nodes in the same order, comments apart. -/
def Alike (φ : Nat → Nat) (xs ys : List (Located Block)) : Prop :=
  List.Forall₂ (Located.Twin φ) (withoutComments xs) (withoutComments ys)

theorem Alike.append {φ : Nat → Nat} {xs ys xs' ys' : List (Located Block)} (h : Alike φ xs ys)
    (h' : Alike φ xs' ys') : Alike φ (xs ++ xs') (ys ++ ys') := by
  rw [Alike, withoutComments, withoutComments, List.filter_append, List.filter_append]
  exact List.rel_append h h'

mutual

theorem Block.Twin.alike {φ : Nat → Nat} {i j : Nat} {b c : Block} :
    Block.Twin φ i b j c → Alike φ (b.located i) (c.located j)
  | .group hij h hbs => by
    rw [Block.located, Block.located, Alike, withoutComments, withoutComments,
      List.filter_cons_of_pos rfl, List.filter_cons_of_pos rfl]
    exact .cons (.group hij h hbs) hbs.alike
  | .entry hij e => by
    rw [Block.located, Block.located, Alike]
    cases e with
    | ofSuffix s => exact .cons (.entry hij _) .nil
    | ofWildcard w => exact .cons (.entry hij _) .nil
    | ofComment c => exact .nil

theorem Block.TwinAll.alike {φ : Nat → Nat} {i j : Nat} {bs cs : List Block} :
    Block.TwinAll φ i bs j cs → Alike φ (Block.locatedAll i bs) (Block.locatedAll j cs)
  | .nil => .nil
  | .cons hb hbs => by
    rw [Block.locatedAll, Block.locatedAll]
    exact hb.alike.append hbs.alike
  | .comment x hbs => by
    rw [Block.locatedAll, Block.located, Alike, withoutComments, withoutComments,
      List.singleton_append, List.filter_cons_of_neg (by simp [Block.comment?])]
    exact hbs.alike

end

theorem Located.Twin.below {φ : Nat → Nat} {x y : Located Block} (h : x.Twin φ y) :
    Alike φ x.below y.below :=
  Block.Twin.alike h

theorem alike_flatMap_below {φ : Nat → Nat} {xs ys : List (Located Block)}
    (h : List.Forall₂ (Located.Twin φ) xs ys) :
    Alike φ (xs.flatMap Located.below) (ys.flatMap Located.below) := by
  induction h with
  | nil => exact .nil
  | cons hxy _ ih => exact hxy.below.append ih

/-! ## What does not look at comments -/

/-- `f` looks at the heading or entry of a block only and makes `nothing` of a comment. -/
structure Overlooks {β : Type} (f : Block → β) (nothing : β) : Prop where
  group : ∀ h bs cs, f (.group h bs) = f (.group h cs)
  comment : ∀ x, f (.entry (.ofComment x)) = nothing

theorem Overlooks.eq_nothing {β : Type} {f : Block → β} {nothing : β} (hf : Overlooks f nothing)
    {b : Block} (hb : b.comment?.isNone = false) : f b = nothing := by
  cases b with
  | group h bs => cases hb
  | entry e =>
    cases e with
    | ofSuffix s => cases hb
    | ofWildcard w => cases hb
    | ofComment x => exact hf.comment x

theorem Overlooks.eq_of_twin {β : Type} {f : Block → β} {nothing : β} (hf : Overlooks f nothing)
    {φ : Nat → Nat} {i j : Nat} {b c : Block} (h : Block.Twin φ i b j c) : f c = f b := by
  cases h with
  | group _ h _ => exact hf.group h _ _
  | entry _ e => rfl

theorem overlooks_section? : Overlooks Block.section? none :=
  ⟨fun h _ _ => by cases h <;> rfl, fun _ => rfl⟩

theorem overlooks_entity? : Overlooks Block.entity? none :=
  ⟨fun h _ _ => by cases h <;> rfl, fun _ => rfl⟩

theorem overlooks_suffix? : Overlooks Block.suffix? none := ⟨fun _ _ _ => rfl, fun _ => rfl⟩

theorem overlooks_wildcard? : Overlooks Block.wildcard? none := ⟨fun _ _ _ => rfl, fun _ => rfl⟩

theorem overlooks_opensSection (name : String) : Overlooks (Block.opensSection name) false :=
  ⟨fun h _ _ => by cases h <;> rfl, fun _ => rfl⟩

/-! ## Walks -/

/-- The same find under another number. -/
def Located.renumber {α : Type} (φ : Nat → Nat) (x : Located α) : Located α := ⟨φ x.index, x.value⟩

@[simp] theorem Located.value_renumber {α : Type} (φ : Nat → Nat) (x : Located α) :
    (x.renumber φ).value = x.value := rfl

section Walks

variable {α : Type} {φ : Nat → Nat} {xs ys : List (Located Block)}

theorem select_withoutComments {f : Block → Option α} (hf : Overlooks f none)
    (xs : List (Located Block)) : select f (withoutComments xs) = select f xs := by
  rw [select, select, withoutComments, List.filterMap_filter]
  refine List.filterMap_congr fun x _ => ?_
  split
  · rfl
  · next hx => rw [hf.eq_nothing (Bool.eq_false_iff.mpr hx), Option.map_none]

theorem filter_withoutComments {P : Block → Bool} (hP : Overlooks P false)
    (xs : List (Located Block)) :
    (withoutComments xs).filter (fun x => P x.value) = xs.filter fun x => P x.value := by
  rw [withoutComments, List.filter_filter]
  refine List.filter_congr fun x _ => ?_
  cases hx : x.value.comment?.isNone with
  | true => exact Bool.and_true _
  | false => rw [hP.eq_nothing hx, Bool.false_and]

theorem select_of_twins {f : Block → Option α} (hf : Overlooks f none)
    (h : List.Forall₂ (Located.Twin φ) xs ys) :
    select f ys = (select f xs).map (Located.renumber φ) := by
  induction h with
  | nil => rfl
  | @cons x y xs ys hxy _ ih =>
    have hvalue : f y.value = f x.value := hf.eq_of_twin hxy
    have hindex : y.index = φ x.index := hxy.index_eq
    rw [select, select] at ih
    rw [select, select, List.filterMap_cons, List.filterMap_cons, hvalue, hindex]
    cases f x.value with
    | none => exact ih
    | some v => exact congrArg (⟨φ x.index, v⟩ :: ·) ih

theorem Alike.select {f : Block → Option α} (hf : Overlooks f none) (h : Alike φ xs ys) :
    select f ys = (select f xs).map (Located.renumber φ) := by
  rw [← select_withoutComments hf xs, ← select_withoutComments hf ys]
  exact select_of_twins hf h

theorem Alike.filter {P : Block → Bool} (hP : Overlooks P false) (h : Alike φ xs ys) :
    List.Forall₂ (Located.Twin φ) (xs.filter fun x => P x.value)
      (ys.filter fun y => P y.value) := by
  rw [← filter_withoutComments hP xs, ← filter_withoutComments hP ys]
  refine List.rel_filter (fun x y hxy => ?_) h
  show P x.value = true ↔ P y.value = true
  rw [hP.eq_of_twin hxy]

theorem rel_head? {R : Located Block → Located Block → Prop} (h : List.Forall₂ R xs ys) :
    Option.Rel R xs.head? ys.head? := by
  cases h with
  | nil => exact .none
  | cons hxy _ => exact .some hxy

theorem Alike.find? {P : Block → Bool} (hP : Overlooks P false) (h : Alike φ xs ys) :
    Option.Rel (Located.Twin φ) (xs.find? fun x => P x.value) (ys.find? fun y => P y.value) := by
  rw [← List.head?_filter, ← List.head?_filter]
  exact rel_head? (h.filter hP)

end Walks

/-! ## The whole list -/

namespace SuffixList

/-- The nodes of `m`, comments apart, are those of `l` with the numbers that `φ` gives them. -/
def Matched (φ : Nat → Nat) (l m : SuffixList) : Prop :=
  List.Forall₂ (fun x y => y.index = φ x.index ∧ x.value.Commented y.value)
    (withoutComments l.located) (withoutComments m.located)

variable {φ : Nat → Nat} {l m : SuffixList}

theorem matched_of_alike (h : Alike φ l.located m.located) : Matched φ l m :=
  List.Forall₂.imp (fun _ _ hxy => ⟨hxy.index_eq, hxy.commented⟩) h

/-- The renumbering is determined by the two listings. -/
theorem Matched.map_index (h : Matched φ l m) :
    ((withoutComments l.located).map Located.index).map φ =
      (withoutComments m.located).map Located.index := by
  rw [Matched] at h
  generalize withoutComments l.located = xs at h
  generalize withoutComments m.located = ys at h
  induction h with
  | nil => rfl
  | cons hxy _ ih => rw [List.map_cons, List.map_cons, List.map_cons, hxy.1, ih]

theorem Commented.exists_alike (h : l.Commented m) : ∃ φ, Alike φ l.located m.located := by
  obtain ⟨φ, _, htwin⟩ := Block.CommentedAll.exists_twinAll 1 1 id h
  exact ⟨φ, htwin.alike⟩

theorem sections_eq (h : Alike φ l.located m.located) :
    m.sections = l.sections.map (Located.renumber φ) := h.select overlooks_section?

theorem suffixes_eq (h : Alike φ l.located m.located) :
    m.suffixes = l.suffixes.map (Located.renumber φ) := h.select overlooks_suffix?

theorem wildcards_eq (h : Alike φ l.located m.located) :
    m.wildcards = l.wildcards.map (Located.renumber φ) := h.select overlooks_wildcard?

theorem rel_section? (h : Alike φ l.located m.located) (name : String) :
    Option.Rel (Located.Twin φ) (l.section? name) (m.section? name) :=
  h.find? (overlooks_opensSection name)

end SuffixList

end PublicSuffix
