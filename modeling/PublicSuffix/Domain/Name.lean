import PublicSuffix.Domain.Label

/-!
# Domain names

A domain name is a sequence of labels, the leftmost first. Its text joins the labels by dots and
never ends in one. A name has at least one label, and its text has at most 253 octets, which is
the room that the wire form leaves it.

There are three ways to a name: from a text (`Name.ofText`), from labels (`Name.ofLabels`), and
by putting a label in front of a name (`Name.child`).

Names are in order like their labels, and a list of them can be put in order.
-/

namespace PublicSuffix

/-- The greatest length of a name's text in octets. -/
def Name.maxSize : Nat := 253

/-- The length in octets of labels joined by dots. -/
def Name.textSize : List Label → Nat
  | [] => 0
  | [l] => l.size
  | l :: ls => l.size + 1 + textSize ls

/-- A domain name. -/
structure Name where
  /-- The labels, leftmost first. -/
  labels : List Label
  nonempty : labels ≠ []
  size_le : Name.textSize labels ≤ Name.maxSize
  deriving DecidableEq

namespace Name

/-- The name with the given labels. -/
def ofLabels (labels : List Label) : Except NameError Name :=
  if hne : labels = [] then .error .emptyName
  else if hsize : maxSize < textSize labels then .error .longName
  else .ok ⟨labels, hne, Nat.le_of_not_lt hsize⟩

/-- A text without the one dot that may end it and stands for the root. -/
def dropRoot (cs : List Char) : List Char :=
  if cs.getLast? = some '.' then cs.dropLast else cs

/-- The name that a text writes: labels separated by dots, with or without a dot at the end. The
leftmost bad label decides how a text is refused, and only a text of good labels is refused for
its length. -/
def ofText (s : String) : Except NameError Name :=
  let cs := dropRoot s.toList
  if cs = [] then .error .emptyName
  else do
    let labels ← (cs.splitOn '.').mapM fun piece => Label.ofText (String.ofList piece)
    ofLabels labels

/-- The name one level below `n`, with `label` in front of its labels. -/
def child (n : Name) (label : String) : Except NameError Name := do
  let l ← Label.ofText label
  ofLabels (l :: n.labels)

/-- The labels joined by dots. -/
def text (n : Name) : String :=
  ".".intercalate (n.labels.map Label.text)

instance : ToString Name := ⟨text⟩

/-- Names are compared label by label from the left, a proper beginning first. -/
instance : Ord Name where
  compare a b := compare a.labels b.labels

/-- A name is determined by its labels. -/
theorem ext_labels {a b : Name} (h : a.labels = b.labels) : a = b := by
  cases a; cases b; cases h; rfl

/-- The labels of a name make the name again. -/
theorem ofLabels_labels (n : Name) : ofLabels n.labels = .ok n := by
  simp [ofLabels, n.nonempty, Nat.not_lt.mpr n.size_le]

theorem labels_of_ofLabels {labels : List Label} {n : Name} (h : ofLabels labels = .ok n) :
    n.labels = labels := by
  unfold ofLabels at h
  split at h
  · simp at h
  · split at h
    · simp at h
    · simp only [Except.ok.injEq] at h
      rw [← h]

end Name

/-- The members of a list in increasing order, each once. -/
def sortedDistinct {α : Type} [Ord α] [BEq α] (xs : List α) : List α :=
  (xs.mergeSort fun a b => (compare a b).isLE).eraseReps

end PublicSuffix
