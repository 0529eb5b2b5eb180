import PublicSuffix.Domain.Name
import Mathlib.Data.List.Basic

/-!
# Names and their texts

The text of a name says all about it: its octets are counted by `textSize` (`utf8ByteSize_text`),
and the labels are read back from it, since no label holds a dot (`text_injective`). So a label can
be put in front of a name exactly if the longer text is still short enough, and the result is the
name with that text (`child_eq_ok_iff`, `exists_child_iff`).
-/

namespace PublicSuffix

/-! ## Labels -/

namespace Label

theorem isAllowed_of_isCanonical {c : Char} (h : isCanonical c = true) : isAllowed c = true :=
  ((Bool.and_eq_true _ _).mp h).1

theorem toLower_of_isCanonical {c : Char} (h : isCanonical c = true) : c.toLower = c := by
  have hupper := ((Bool.and_eq_true _ _).mp h).2
  exact Text.toLower_of_not_isUpper (by simpa using hupper)

theorem toLower_text (l : Label) : l.text.toLower = l.text := by
  have hmap : l.text.toList.map Char.toLower = l.text.toList.map id :=
    List.map_congr_left fun c hc => toLower_of_isCanonical (l.canonical c hc)
  rw [← String.toList_inj, Text.toList_toLower, hmap, List.map_id]

/-- Which texts are read as which labels. -/
theorem ofText_eq_ok_iff {s : String} {l : Label} :
    ofText s = .ok l ↔ s ≠ "" ∧ s.utf8ByteSize ≤ maxSize ∧
      (∀ c ∈ s.toList, isAllowed c = true) ∧ l.text = s.toLower := by
  unfold ofText
  split
  · next hempty => simp [hempty]
  split
  · next hlong =>
    simp only [reduceCtorEq, false_iff]
    rintro ⟨_, hsize, _⟩
    omega
  next hempty hlong =>
  split
  · next c hfind =>
    simp only [reduceCtorEq, false_iff]
    rintro ⟨_, _, hallowed, _⟩
    have hbad := List.find?_some hfind
    rw [hallowed c (List.mem_of_find?_eq_some hfind)] at hbad
    cases hbad
  · next hfind =>
    have hallowed : ∀ c ∈ s.toList, isAllowed c = true := by
      simpa using List.find?_eq_none.mp hfind
    rw [Except.ok.injEq]
    constructor
    · rintro rfl
      exact ⟨hempty, Nat.le_of_not_lt hlong, hallowed, rfl⟩
    · rintro ⟨_, _, _, htext⟩
      exact ext_text htext.symm

/-- The text of a label is read as that label. -/
theorem ofText_text (l : Label) : ofText l.text = .ok l :=
  ofText_eq_ok_iff.mpr ⟨l.nonempty, l.size_le,
    fun c hc => isAllowed_of_isCanonical (l.canonical c hc), l.toLower_text.symm⟩

theorem dot_notMem (l : Label) : '.' ∉ l.text.toList := fun h => by
  have hdot : isCanonical '.' = true := l.canonical '.' h
  revert hdot
  decide

end Label

/-! ## Joined labels -/

namespace Name

theorem textSize_cons (l : Label) {ls : List Label} (h : ls ≠ []) :
    textSize (l :: ls) = l.size + 1 + textSize ls := by
  cases ls with
  | nil => exact absurd rfl h
  | cons k ks => rfl

theorem intercalate_cons (l : Label) {ls : List Label} (h : ls ≠ []) :
    ".".intercalate ((l :: ls).map Label.text) =
      l.text ++ "." ++ ".".intercalate (ls.map Label.text) := by
  rw [List.map_cons]
  exact String.intercalate_cons_of_ne_nil fun hnil => h (List.map_eq_nil_iff.mp hnil)

theorem utf8ByteSize_intercalate (ls : List Label) :
    (".".intercalate (ls.map Label.text)).utf8ByteSize = textSize ls := by
  induction ls with
  | nil => rfl
  | cons l ls ih =>
    by_cases h : ls = []
    · subst h
      rw [List.map_singleton, String.intercalate_singleton]
      rfl
    · rw [intercalate_cons l h, String.utf8ByteSize_append, String.utf8ByteSize_append, ih,
        textSize_cons l h]
      rfl

/-- The labels are the pieces between the dots. -/
theorem splitOn_intercalate {ls : List Label} (h : ls ≠ []) :
    (".".intercalate (ls.map Label.text)).toList.splitOn '.' = ls.map (·.text.toList) := by
  rw [String.toList_intercalate, List.map_map]
  refine List.splitOn_intercalate '.' (fun cs hcs => ?_) (by simpa using h)
  obtain ⟨l, _, rfl⟩ := List.mem_map.mp hcs
  exact l.dot_notMem

/-! ## Names -/

theorem utf8ByteSize_text (n : Name) : n.text.utf8ByteSize = textSize n.labels :=
  utf8ByteSize_intercalate n.labels

theorem utf8ByteSize_text_le (n : Name) : n.text.utf8ByteSize ≤ maxSize := by
  rw [utf8ByteSize_text]
  exact n.size_le

/-- Names with the same text are the same. -/
theorem text_injective {a b : Name} (h : a.text = b.text) : a = b := by
  have hsplit : a.labels.map (·.text.toList) = b.labels.map (·.text.toList) := by
    rw [← splitOn_intercalate a.nonempty, ← splitOn_intercalate b.nonempty]
    exact congrArg (fun s => s.toList.splitOn '.') h
  have hinj : Function.Injective fun l : Label => l.text.toList := fun k l hkl =>
    Label.ext_text (String.toList_inj.mp hkl)
  exact ext_labels (List.map_injective_iff.mpr hinj hsplit)

/-! ## Names one level below -/

theorem ofLabels_eq_ok_iff {ls : List Label} {n : Name} : ofLabels ls = .ok n ↔ n.labels = ls := by
  constructor
  · exact labels_of_ofLabels
  · rintro rfl
    exact ofLabels_labels n

theorem child_text (n : Name) (l : Label) : n.child l.text = ofLabels (l :: n.labels) := by
  rw [child, Label.ofText_text]
  rfl

theorem text_child {n m : Name} {l : Label} (h : n.child l.text = .ok m) :
    m.text = l.text ++ "." ++ n.text := by
  rw [child_text, ofLabels_eq_ok_iff] at h
  rw [text, h, intercalate_cons l n.nonempty]
  rfl

theorem textSize_child (n : Name) (l : Label) :
    textSize (l :: n.labels) = (l.text ++ "." ++ n.text).utf8ByteSize := by
  rw [← utf8ByteSize_intercalate, intercalate_cons l n.nonempty]
  rfl

/-- A label can be put in front of a name if there is room for it. -/
theorem exists_child_iff {n : Name} {l : Label} :
    (∃ m, n.child l.text = .ok m) ↔ (l.text ++ "." ++ n.text).utf8ByteSize ≤ maxSize := by
  constructor
  · rintro ⟨m, hm⟩
    rw [← text_child hm]
    exact m.utf8ByteSize_text_le
  · intro hsize
    refine ⟨⟨l :: n.labels, List.cons_ne_nil _ _, n.textSize_child l ▸ hsize⟩, ?_⟩
    rw [child_text, ofLabels_eq_ok_iff]

theorem child_eq_longName {n : Name} {l : Label}
    (h : maxSize < (l.text ++ "." ++ n.text).utf8ByteSize) : n.child l.text = .error .longName := by
  rw [child_text, ofLabels, dif_neg (List.cons_ne_nil _ _), dif_pos (n.textSize_child l ▸ h)]

theorem child_eq_ok_iff {n m : Name} {l : Label} :
    n.child l.text = .ok m ↔ m.text = l.text ++ "." ++ n.text := by
  constructor
  · exact text_child
  · intro hm
    obtain ⟨k, hk⟩ : ∃ k, n.child l.text = .ok k := by
      rw [exists_child_iff, ← hm]
      exact m.utf8ByteSize_text_le
    rw [hk, text_injective ((text_child hk).trans hm.symm)]

end Name

end PublicSuffix
