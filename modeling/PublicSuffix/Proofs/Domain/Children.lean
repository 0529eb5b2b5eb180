import PublicSuffix.Proofs.Domain.Canonical

/-!
# Names one level below another

`child_agrees_ofText`: putting a text in front of a name comes to the same as writing it with a dot
before the name's text and reading the whole, be the outcome a name or a refusal. This holds of
texts without a dot. A text with a dot would be read as several labels, so it is refused as a label.

The whole has the new text as its first piece and the labels of the name as the others
(`Pieces.prepend`), and these are good, so that the first piece alone decides before the length of
the whole is looked at (`mapM_ofText_text`).
-/

namespace PublicSuffix.Name

variable {n : Name} {l : String}

/-! ## The longer text -/

theorem Pieces.prepend {t : String} {pieces : List String} (h : Pieces t pieces)
    (hl : '.' ∉ l.toList) : Pieces (l ++ "." ++ t) (l :: pieces) where
  nonempty := List.cons_ne_nil _ _
  joined := by rw [String.intercalate_cons_of_ne_nil h.nonempty, h.joined]
  dotless := List.forall_mem_cons.mpr ⟨hl, h.dotless⟩

theorem mapM_ofText_text (labels : List Label) :
    (labels.map Label.text).mapM Label.ofText = .ok labels := by
  induction labels with
  | nil => rfl
  | cons k ks ih =>
    rw [List.map_cons, List.mapM_cons, Label.ofText_text, ih]
    rfl

theorem child_eq_ofText (h : '.' ∉ l.toList) : n.child l = ofText (l ++ "." ++ n.text) := by
  have hne : l ++ "." ++ n.text ≠ "" := by
    rw [← String.toList_inj.ne, String.toList_append, String.toList_append]
    simp
  rw [ofText_of_pieces (unrooted_append_text _ n) hne (n.pieces_text.prepend h), List.mapM_cons,
    mapM_ofText_text, child]
  cases Label.ofText l <;> rfl

/-! ## Refusals and results -/

theorem child_eq_error {e : NameError} (h : Label.Bad l e) : n.child l = .error e := by
  rw [child, Label.ofText_eq_error h]
  rfl

theorem disallowed_dot : Label.Disallowed '.' := by decide

/-- A text with a dot is no label. -/
theorem bad_of_dot (h : '.' ∈ l.toList) :
    63 < l.utf8ByteSize ∧ Label.Bad l .longLabel ∨
      l.utf8ByteSize ≤ 63 ∧ ∃ before c after, l.toList = before ++ c :: after ∧
        (∀ d ∈ before, ¬Label.Disallowed d) ∧ Label.Disallowed c ∧
        Label.Bad l (.disallowedChar c) := by
  rcases Label.good_or_bad l with hgood | ⟨e, hbad⟩
  · exact absurd disallowed_dot (hgood.allowed '.' h)
  · cases hbad with
    | empty => simp at h
    | long hsize => exact .inl ⟨hsize, .long hsize⟩
    | disallowed hsize hpiece hbefore hc =>
      exact .inr ⟨hsize, _, _, _, hpiece, hbefore, hc, .disallowed hsize hpiece hbefore hc⟩

/-- The names one level below `n`: a good text in lower case, and then the labels of `n`. -/
theorem child_eq_ok_iff_labels {m : Name} : n.child l = .ok m ↔
    Label.Good l ∧ m.labels.map Label.text = l.toLower :: n.labels.map Label.text := by
  rcases Label.good_or_bad l with hgood | ⟨e, hbad⟩
  · obtain ⟨k, hk, htext⟩ := Label.exists_ofText_eq_ok hgood
    have hchild : n.child l = ofLabels (k :: n.labels) := by
      rw [child, hk]
      rfl
    have hlabels : m.labels.map Label.text = l.toLower :: n.labels.map Label.text ↔
        m.labels = k :: n.labels := by
      rw [← htext, ← List.map_cons]
      exact (List.map_injective_iff.mpr fun _ _ => Label.ext_text).eq_iff
    rw [hchild, ofLabels_eq_ok_iff, hlabels]
    exact ⟨fun h => ⟨hgood, h⟩, fun h => h.2⟩
  · have hnot : ¬Label.Good l := fun hgood => by
      obtain ⟨k, hk, -⟩ := Label.exists_ofText_eq_ok hgood
      rw [Label.ofText_eq_error hbad] at hk
      cases hk
    rw [child_eq_error hbad]
    simp [hnot]

/-- **A name one level below is the name that the longer text writes**, with the same refusals. A
text with a dot is always refused, and what comes of any other has its label in front. -/
theorem child_agrees_ofText (n : Name) (l : String) :
    ('.' ∉ l.toList → n.child l = ofText (l ++ "." ++ n.text)) ∧
    ('.' ∈ l.toList →
      63 < l.utf8ByteSize ∧ n.child l = .error .longLabel ∨
      l.utf8ByteSize ≤ 63 ∧ ∃ before c after, l.toList = before ++ c :: after ∧
        (∀ d ∈ before, ¬Label.Disallowed d) ∧ Label.Disallowed c ∧
        n.child l = .error (.disallowedChar c)) ∧
    ∀ m, n.child l = .ok m ↔
      Label.Good l ∧ m.labels.map Label.text = l.toLower :: n.labels.map Label.text := by
  refine ⟨child_eq_ofText, fun h => ?_, fun m => child_eq_ok_iff_labels⟩
  rcases bad_of_dot h with ⟨hsize, hbad⟩ | ⟨hsize, before, c, after, hl, hbefore, hc, hbad⟩
  · exact .inl ⟨hsize, child_eq_error hbad⟩
  · exact .inr ⟨hsize, before, c, after, hl, hbefore, hc, child_eq_error hbad⟩

def barCafeName : Name where
  labels := ⟨"bar", by decide, by decide, List.all_eq_true.mp (by decide)⟩ :: cafeName.labels
  nonempty := by decide
  size_le := by decide

/-- The label is put into lower case, and so it is when the longer text is read. -/
theorem child_bar_cafe : '.' ∉ "Bar".toList ∧ cafeName.child "Bar" = .ok barCafeName ∧
    ofText "Bar.cafe" = .ok barCafeName := by
  obtain ⟨hagrees, -, hlabels⟩ := child_agrees_ofText cafeName "Bar"
  have hdotless : '.' ∉ "Bar".toList := by decide
  have hlower : "Bar".toLower = "bar" := by
    rw [← String.toList_inj, Text.toList_toLower]
    decide
  have hallowed : ∀ c ∈ "Bar".toList, Label.isAllowed c = true := List.all_eq_true.mp (by decide)
  have hgood : Label.Good "Bar" :=
    ⟨by decide, by decide, fun c hc => Label.isAllowed_iff.mp (hallowed c hc)⟩
  have hchild : cafeName.child "Bar" = .ok barCafeName :=
    (hlabels barCafeName).mpr ⟨hgood, by rw [hlower]; decide⟩
  exact ⟨hdotless, hchild, (hagrees hdotless).symm.trans hchild⟩

end PublicSuffix.Name
