import Mathlib.Data.List.Infix
import Mathlib.Tactic.Common

/-!
# Patterns and their first matches

Patterns as they are used to find URLs: characters of a class, repetitions of these, sequences, and
a group that is captured. A pattern may match the beginning of a text in several ways. `ways` lists
them as a matcher tries them, which in a repetition is the longest run first. What a search finds is
the first way at the leftmost place that has one (`find?`).

The lemmas give the first way of each kind of pattern without going through the others.
-/

namespace PublicSuffix

/-- A pattern. Repetitions are greedy. -/
inductive Pattern where
  | one (p : Char → Bool)
  | many (p : Char → Bool)
  | seq (a b : Pattern)
  | group (a : Pattern)

/-- A way in which a pattern matches the beginning of a text: what it takes and captures, and what
it leaves. -/
structure Way where
  taken : List Char
  captured : Option (List Char)
  rest : List Char

namespace Way

/-- One character more at the beginning. -/
def cons (c : Char) (x : Way) : Way := ⟨c :: x.taken, x.captured, x.rest⟩

/-- First `x` and then, in what it leaves, `y`. -/
def append (x y : Way) : Way := ⟨x.taken ++ y.taken, y.captured.or x.captured, y.rest⟩

/-- The way that takes nothing. -/
def stop (cs : List Char) : Way := ⟨[], none, cs⟩

theorem append_stop (cs : List Char) : append (stop cs) = id := by
  funext y
  simp [append, stop]

theorem append_cons (c : Char) (x : Way) : append (cons c x) = cons c ∘ append x := rfl

end Way

namespace Pattern

/-- The runs of characters of a class with which a text begins, the longest first. -/
def runs (p : Char → Bool) : List Char → List Way
  | [] => [.stop []]
  | c :: cs => (if p c then (runs p cs).map (.cons c) else []) ++ [.stop (c :: cs)]

/-- The ways in which a pattern matches the beginning of a text, in the order of preference. -/
def ways : Pattern → List Char → List Way
  | one _, [] => []
  | one p, c :: cs => if p c then [.cons c (.stop cs)] else []
  | many p, cs => runs p cs
  | seq a b, cs => (a.ways cs).flatMap fun x => (b.ways x.rest).map x.append
  | group a, cs => (a.ways cs).map fun x => ⟨x.taken, some x.taken, x.rest⟩

/-- The preferred way at the beginning of a text. -/
def first? (a : Pattern) (cs : List Char) : Option Way := (a.ways cs).head?

/-- The preferred way at the leftmost place that has one. -/
def find? (a : Pattern) (cs : List Char) : Option Way := cs.tails.findSome? a.first?

/-- What the group of a pattern captures in a text. -/
def capture? (a : Pattern) (cs : List Char) : Option (List Char) :=
  (a.find? cs).bind Way.captured

/-- A word, and then a pattern. -/
def word (w : List Char) (a : Pattern) : Pattern := w.foldr (fun c => seq (one (· == c))) a

variable {p : Char → Bool} {a b : Pattern} {c : Char} {cs w : List Char}

/-! ## First ways -/

theorem first?_seq :
    (seq a b).first? cs = (a.ways cs).findSome? fun x => (b.first? x.rest).map x.append := by
  simp only [first?, ways, List.head?_flatMap, List.head?_map]

theorem first?_group :
    (group a).first? cs = (a.first? cs).map fun x => ⟨x.taken, some x.taken, x.rest⟩ := by
  rw [first?, ways, List.head?_map, first?]

theorem first?_many : (many p).first? cs = some ⟨cs.takeWhile p, none, cs.dropWhile p⟩ := by
  rw [first?, ways]
  induction cs with
  | nil => rfl
  | cons c cs ih =>
    rw [runs]
    by_cases hc : p c = true
    · rw [if_pos hc, List.head?_append, List.head?_map, ih]
      simp [hc, Way.cons]
    · rw [if_neg hc]
      simp [hc, Way.stop]

theorem first?_one_seq_cons : (seq (one p) b).first? (c :: cs) =
    if p c then (b.first? cs).map (.cons c) else none := by
  rw [first?_seq, ways]
  split
  · rw [List.findSome?_singleton, Way.append_cons, Way.append_stop]
    rfl
  · rfl

/-- A repetition goes as far as it can before the rest of the pattern is tried. -/
theorem first?_many_seq_cons : (seq (many p) b).first? (c :: cs) =
    if p c then (((seq (many p) b).first? cs).map (.cons c)).or (b.first? (c :: cs))
    else b.first? (c :: cs) := by
  have hstop : (b.first? (Way.stop (c :: cs)).rest).map (Way.append (.stop (c :: cs))) =
      b.first? (c :: cs) := by
    rw [Way.append_stop, Option.map_id]
    rfl
  rw [first?_seq, first?_seq, ways, ways, runs, List.findSome?_append, List.findSome?_singleton,
    hstop]
  split
  · rw [List.findSome?_map, List.map_findSome?]
    congr 2
    funext x
    show (b.first? x.rest).map (Way.append (.cons c x)) =
      ((b.first? x.rest).map x.append).map (.cons c)
    rw [Way.append_cons, Option.map_map]
  · rfl

/-! ## What the first way captures -/

/-- What the first way at the beginning of a text captures, if there is a way. -/
def grab? (a : Pattern) (cs : List Char) : Option (Option (List Char)) :=
  (a.first? cs).map Way.captured

theorem map_cons_captured (c : Char) (o : Option Way) :
    (o.map (Way.cons c)).map Way.captured = o.map Way.captured := by
  rw [Option.map_map]
  rfl

theorem capture?_eq_findSome? : a.capture? cs = (cs.tails.findSome? a.grab?).join := by
  have hfind : (a.find? cs).map Way.captured = cs.tails.findSome? a.grab? := by
    rw [find?, List.map_findSome?]
    rfl
  rw [← hfind, capture?]
  cases a.find? cs <;> rfl

theorem grab?_one_seq_cons :
    (seq (one p) b).grab? (c :: cs) = if p c then b.grab? cs else none := by
  rw [grab?, first?_one_seq_cons]
  split
  · rw [map_cons_captured, grab?]
  · rfl

theorem grab?_many_seq_cons : (seq (many p) b).grab? (c :: cs) =
    if p c then ((seq (many p) b).grab? cs).or (b.grab? (c :: cs)) else b.grab? (c :: cs) := by
  rw [grab?, first?_many_seq_cons]
  split
  · rw [Option.map_or, map_cons_captured, grab?, grab?]
  · rfl

theorem grab?_word : (word w b).grab? cs =
    if w.isPrefixOf cs then b.grab? (cs.drop w.length) else none := by
  induction w generalizing cs with
  | nil => simp [word]
  | cons d w ih =>
    show (seq (one (· == d)) (word w b)).grab? cs = _
    cases cs with
    | nil => rfl
    | cons c cs =>
      rw [grab?_one_seq_cons, ih]
      by_cases hcd : c = d
      · subst hcd
        simp
      · have hdc : d ≠ c := fun h => hcd h.symm
        simp [hcd, hdc]

/-- A captured run is not empty and as long as possible. -/
theorem grab?_group_run : (group (seq (one p) (many p))).grab? cs =
    if cs.takeWhile p = [] then none else some (some (cs.takeWhile p)) := by
  rw [grab?, first?_group]
  cases cs with
  | nil => rfl
  | cons c cs =>
    rw [first?_one_seq_cons, first?_many]
    by_cases hc : p c = true
    · simp [hc, Way.cons]
    · simp [hc]

end Pattern

end PublicSuffix
