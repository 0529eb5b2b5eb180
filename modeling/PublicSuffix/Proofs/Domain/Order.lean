import PublicSuffix.Proofs.Domain.Children
import PublicSuffix.Proofs.SortedDistinct
import PublicSuffix.Proofs.Text.OctetOrder
import PublicSuffix.Proofs.Text.Octets

/-!
# The order of names

Names are in the order of the sequences of their labels, and labels in that of their octets
(`Name.compare_eq_lt_iff`). This is a total order, and `Name.order_laws` puts together what
follows. It is not the order of the texts: there a hyphen comes before a dot, but a label comes
before the same label with a hyphen behind it.
-/

namespace PublicSuffix

/-- The order of lists is lexicographic. -/
theorem compare_eq_lt_iff_lex {α : Type} [Ord α] [Std.LawfulEqOrd α] {r : α → α → Prop}
    (hr : ∀ x y, compare x y = .lt ↔ r x y) {xs ys : List α} :
    compare xs ys = .lt ↔ List.Lex r xs ys := by
  induction xs generalizing ys with
  | nil => cases ys <;> simp [List.compare_nil_cons]
  | cons x xs ih =>
    cases ys with
    | nil => simp [List.compare_cons_nil]
    | cons y ys =>
      rw [List.compare_cons_cons, Ordering.then_eq_lt, Std.LawfulEqCmp.compare_eq_iff_eq, hr, ih,
        List.cons_lex_cons_iff]

theorem isLE_compare_total {α : Type} [Ord α] [Std.OrientedOrd α] (x y : α) :
    (compare x y).isLE = true ∨ (compare y x).isLE = true := by
  rw [Std.OrientedOrd.eq_swap (a := y)]
  cases compare x y <;> simp

/-! ## Labels -/

namespace Label

/-- The order of labels, told without a comparison. -/
def Before (k l : Label) : Prop :=
  List.Lex (· < ·) (Text.octets k.text) (Text.octets l.text)

variable {k l : Label}

theorem octets_injective (h : Text.octets k.text = Text.octets l.text) : k = l := by
  apply ext_text
  have hread := congrArg Text.decode? h
  rw [Text.decode?_octets, Text.decode?_octets] at hread
  exact Option.some.inj hread

instance : Std.TransOrd Label :=
  inferInstanceAs (Std.TransCmp (compareOn fun l : Label => Text.octets l.text))

instance : Std.LawfulEqOrd Label where
  eq_of_compare h := octets_injective (Std.LawfulEqCmp.eq_of_compare h)

theorem compare_eq_lt_iff : compare k l = .lt ↔ k.Before l :=
  compare_eq_lt_iff_lex fun _ _ => Std.compare_eq_lt

end Label

/-! ## Names -/

namespace Name

/-- The order of names, told without a comparison. -/
def Before (a b : Name) : Prop := List.Lex Label.Before a.labels b.labels

variable {a b : Name} {l : String}

instance : Std.TransOrd Name :=
  inferInstanceAs (Std.TransCmp (compareOn labels))

instance : Std.LawfulEqOrd Name where
  eq_of_compare h := ext_labels (Std.LawfulEqCmp.eq_of_compare h)

theorem compare_eq_lt_iff : compare a b = .lt ↔ a.Before b :=
  compare_eq_lt_iff_lex fun _ _ => Label.compare_eq_lt_iff

theorem compare_eq_eq_iff : compare a b = .eq ↔ a.text = b.text := by
  rw [Std.LawfulEqCmp.compare_eq_iff_eq]
  exact ⟨congrArg text, text_injective⟩

theorem exists_labels_of_child {m : Name} (h : a.child l = .ok m) :
    ∃ k : Label, k.text = l.toLower ∧ m.labels = k :: a.labels := by
  obtain ⟨-, hlabels⟩ := child_eq_ok_iff_labels.mp h
  obtain ⟨k, ks, hm, hk, hks⟩ := List.map_eq_cons_iff.mp hlabels
  refine ⟨k, hk, hm.trans (congrArg (k :: ·) ?_)⟩
  exact List.map_injective_iff.mpr (fun _ _ => Label.ext_text) hks

/-- A label in front of both of two names leaves their order. -/
theorem compare_child {a' b' : Name} (ha : a.child l = .ok a') (hb : b.child l = .ok b') :
    compare a' b' = compare a b := by
  obtain ⟨k, hk, ha'⟩ := exists_labels_of_child ha
  obtain ⟨k', hk', hb'⟩ := exists_labels_of_child hb
  obtain rfl : k = k' := Label.ext_text (hk.trans hk'.symm)
  have hsame : compare k k = .eq := Std.ReflCmp.compare_self
  change compare a'.labels b'.labels = compare a.labels b.labels
  rw [ha', hb', List.compare_cons_cons, hsame]
  rfl

/-- **The order of names is total**: by labels from the left, and by octets within a label, which
is by characters as well. A label in front of two names leaves their order, and each set of names
is put into one increasing list. -/
theorem order_laws :
    (∀ a b : Name, compare a b = .lt ↔ a.Before b) ∧
    ((∀ a : Name, (compare a a).isLE = true) ∧
      (∀ a b : Name, (compare a b).isLE = true → (compare b a).isLE = true → a = b) ∧
      (∀ a b c : Name, (compare a b).isLE = true → (compare b c).isLE = true →
        (compare a c).isLE = true) ∧
      ∀ a b : Name, (compare a b).isLE = true ∨ (compare b a).isLE = true) ∧
    (∀ a b : Name, compare a b = .eq ↔ a.text = b.text) ∧
    (∀ k l : Label, compare k l =
      compare (k.text.toList.map Char.toNat) (l.text.toList.map Char.toNat)) ∧
    (∀ (a b a' b' : Name) (l : String), a.child l = .ok a' → b.child l = .ok b' →
      compare a' b' = compare a b) ∧
    ∀ names : List Name,
      ((sortedDistinct names).Pairwise fun a b => compare a b = .lt) ∧
      (∀ n, n ∈ sortedDistinct names ↔ n ∈ names) ∧
      ∀ increasing : List Name, (increasing.Pairwise fun a b => compare a b = .lt) →
        (∀ n, n ∈ increasing ↔ n ∈ names) → increasing = sortedDistinct names := by
  refine ⟨fun _ _ => compare_eq_lt_iff, ⟨?_, ?_, ?_, ?_⟩, fun _ _ => compare_eq_eq_iff, ?_, ?_, ?_⟩
  · intro a
    exact Std.ReflCmp.isLE_rfl
  · intro a b hab hba
    exact Std.LawfulEqCmp.eq_of_compare (Std.OrientedCmp.isLE_antisymm hab hba)
  · intro a b c hab hbc
    exact Std.TransCmp.isLE_trans hab hbc
  · exact isLE_compare_total
  · intro k l
    exact Text.compare_octets k.text l.text
  · intro a b a' b' l ha hb
    exact compare_child ha hb
  · intro names
    refine ⟨pairwise_sortedDistinct names, fun n => mem_sortedDistinct, ?_⟩
    intro increasing hincreasing hmem
    exact eq_sortedDistinct hincreasing hmem

def labelOfW : Label := ⟨"w", by decide, by decide, List.all_eq_true.mp (by decide)⟩

/-- Two labels, written with a dot between them. -/
def dotted : Name where
  labels := [⟨"u", by decide, by decide, List.all_eq_true.mp (by decide)⟩,
    ⟨"v", by decide, by decide, List.all_eq_true.mp (by decide)⟩]
  nonempty := by decide
  size_le := by decide

/-- One label, which is longer than the first one of `dotted`. -/
def hyphened : Name where
  labels := [⟨"u-", by decide, by decide, List.all_eq_true.mp (by decide)⟩]
  nonempty := by decide
  size_le := by decide

def dottedBelow : Name := ⟨labelOfW :: dotted.labels, by decide, by decide⟩

def hyphenedBelow : Name := ⟨labelOfW :: hyphened.labels, by decide, by decide⟩

/-- The longer label comes later, though its text comes earlier, and so it is one level below. -/
theorem order_hyphened :
    compare (Text.octets dotted.text) (Text.octets hyphened.text) = .gt ∧
    dotted.child "w" = .ok dottedBelow ∧ hyphened.child "w" = .ok hyphenedBelow ∧
    compare dottedBelow hyphenedBelow = .lt ∧
    (compare dotted dottedBelow).isLE = true ∧
    sortedDistinct [hyphened, dotted, hyphened] = [dotted, hyphened] := by
  obtain ⟨-, ⟨-, -, htrans, -⟩, -, -, hbelow, hsorted⟩ := order_laws
  have hdotted : dotted.child labelOfW.text = .ok dottedBelow := by
    rw [child_text, ofLabels_eq_ok_iff]
    rfl
  have hhyphened : hyphened.child labelOfW.text = .ok hyphenedBelow := by
    rw [child_text, ofLabels_eq_ok_iff]
    rfl
  have hlt : compare dotted hyphened = .lt := by decide
  have hle : (compare dotted dottedBelow).isLE = true :=
    htrans dotted hyphened dottedBelow (by decide) (by decide)
  have hincreasing : [dotted, hyphened].Pairwise fun a b => compare a b = .lt := by
    simpa using hlt
  obtain ⟨-, -, hunique⟩ := hsorted [hyphened, dotted, hyphened]
  refine ⟨by decide, hdotted, hhyphened, ?_, hle, ?_⟩
  · rw [hbelow dotted hyphened dottedBelow hyphenedBelow "w" hdotted hhyphened]
    exact hlt
  · refine (hunique [dotted, hyphened] hincreasing fun n => ?_).symm
    grind

end Name

end PublicSuffix
