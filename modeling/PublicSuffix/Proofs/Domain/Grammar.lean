import PublicSuffix.Proofs.Domain.Names
import PublicSuffix.Proofs.Text.Lines

/-!
# The grammar of names

`ofText_eq_iff_reads`: what a text is read as, with each way of refusing it, is given by the
relation `Reads`, which speaks of the pieces between the dots and of no scan. The root dot is
dropped first. Then the leftmost piece that is no label decides; a text of labels alone is refused
only if it is too long as a whole, and else gives the name whose text it is in lower case.

Every text has one such reading. There is one since a text can always be cut at its dots
(`exists_pieces`), and the scan follows it since it stops at the leftmost bad piece
(`mapM_ofText_bad`, `mapM_ofText_good`).
-/

namespace PublicSuffix

/-! ## Labels -/

namespace Label

/-- The characters that no label may hold: those of ASCII but for letters, digits, the hyphen and
the underscore. -/
def Disallowed (c : Char) : Prop := c.toNat < 0x80 ∧ c.isAlphanum = false ∧ c ≠ '-' ∧ c ≠ '_'

instance (c : Char) : Decidable (Disallowed c) := inferInstanceAs (Decidable (_ ∧ _))

/-- A text that a label can be made of. -/
structure Good (piece : String) : Prop where
  nonempty : piece ≠ ""
  size_le : piece.utf8ByteSize ≤ 63
  allowed : ∀ c ∈ piece.toList, ¬Disallowed c

/-- Why no label can be made of a text. -/
inductive Bad : String → NameError → Prop where
  | empty : Bad "" .emptyLabel
  | long {piece : String} (hsize : 63 < piece.utf8ByteSize) : Bad piece .longLabel
  | disallowed {piece : String} {before after : List Char} {c : Char}
    (hsize : piece.utf8ByteSize ≤ 63) (hpiece : piece.toList = before ++ c :: after)
    (hbefore : ∀ d ∈ before, ¬Disallowed d) (hc : Disallowed c) : Bad piece (.disallowedChar c)

theorem isAllowed_eq_false_iff {c : Char} : isAllowed c = false ↔ Disallowed c := by
  simp only [isAllowed, Disallowed, Bool.or_eq_false_iff, beq_eq_false_iff_ne, ne_eq,
    decide_eq_false_iff_not, Nat.not_le]
  tauto

theorem isAllowed_iff {c : Char} : isAllowed c = true ↔ ¬Disallowed c := by
  rw [← isAllowed_eq_false_iff, Bool.not_eq_false]

theorem exists_ofText_eq_ok {piece : String} (h : Good piece) :
    ∃ l, ofText piece = .ok l ∧ l.text = piece.toLower := by
  cases hread : ofText piece with
  | ok l => exact ⟨l, rfl, (ofText_eq_ok_iff.mp hread).2.2.2⟩
  | error e =>
    -- each of the three checks passes
    have hsize : ¬maxSize < piece.utf8ByteSize := Nat.not_lt.mpr h.size_le
    unfold ofText at hread
    rw [dif_neg h.nonempty, dif_neg hsize] at hread
    split at hread
    · next c hfind =>
      have hbad := List.find?_some hfind
      rw [isAllowed_iff.mpr (h.allowed c (List.mem_of_find?_eq_some hfind))] at hbad
      cases hbad
    · cases hread

theorem ofText_eq_error {piece : String} {e : NameError} (h : Bad piece e) :
    ofText piece = .error e := by
  cases h with
  | empty => rfl
  | long hsize =>
    have hne : piece ≠ "" := by
      rintro rfl
      exact absurd hsize (by decide)
    have hlong : maxSize < piece.utf8ByteSize := hsize
    rw [ofText, dif_neg hne, dif_pos hlong]
  | @disallowed _ before after c hsize hpiece hbefore hc =>
    have hne : piece ≠ "" := by
      rintro rfl
      simp at hpiece
    have hfirst : piece.toList.find? (fun d => !isAllowed d) = some c := by
      rw [hpiece, List.find?_append, List.find?_eq_none.mpr]
      · simp [isAllowed_eq_false_iff.mpr hc]
      · intro d hd
        simp [isAllowed_iff.mpr (hbefore d hd)]
    have hshort : ¬maxSize < piece.utf8ByteSize := Nat.not_lt.mpr hsize
    unfold ofText
    rw [dif_neg hne, dif_neg hshort]
    split
    · next d hfind => rw [Option.some.inj (hfind.symm.trans hfirst)]
    · next hfind => cases hfind.symm.trans hfirst

theorem good_or_bad (piece : String) : Good piece ∨ ∃ e, Bad piece e := by
  by_cases hempty : piece = ""
  · subst hempty
    exact .inr ⟨_, .empty⟩
  rcases Nat.lt_or_ge 63 piece.utf8ByteSize with hlong | hsize
  · exact .inr ⟨_, .long hlong⟩
  cases hfind : piece.toList.find? fun c => !isAllowed c with
  | none =>
    refine .inl ⟨hempty, hsize, fun c hc => isAllowed_iff.mp ?_⟩
    simpa using List.find?_eq_none.mp hfind c hc
  | some c =>
    obtain ⟨hc, before, after, hpiece, hbefore⟩ := List.find?_eq_some_iff_append.mp hfind
    refine .inr ⟨_, .disallowed hsize hpiece (fun d hd => isAllowed_iff.mp ?_) ?_⟩
    · simpa using hbefore d hd
    · simpa [isAllowed_eq_false_iff] using hc

end Label

namespace Name

/-! ## The parts of a text -/

/-- `t` is `s` without the one dot that may end it. -/
def Unrooted (s t : String) : Prop := s = t ++ "." ∨ s = t ∧ ∀ u, s ≠ u ++ "."

/-- The pieces of a text between its dots. -/
structure Pieces (t : String) (pieces : List String) : Prop where
  nonempty : pieces ≠ []
  joined : ".".intercalate pieces = t
  dotless : ∀ piece ∈ pieces, '.' ∉ piece.toList

theorem eq_append_dot_iff {s t : String} : s = t ++ "." ↔ s.toList = t.toList ++ ['.'] := by
  rw [← String.toList_inj, String.toList_append]
  rfl

theorem dropRoot_eq {s t : String} (h : Unrooted s t) : dropRoot s.toList = t.toList := by
  unfold dropRoot
  rcases h with hdot | ⟨rfl, hnone⟩
  · rw [eq_append_dot_iff.mp hdot]
    simp
  · refine if_neg fun hlast => ?_
    obtain ⟨cs, hcs⟩ := List.getLast?_eq_some_iff.mp hlast
    refine hnone (String.ofList cs) (eq_append_dot_iff.mpr ?_)
    rw [hcs, String.toList_ofList]

theorem exists_unrooted (s : String) : ∃ t, Unrooted s t := by
  by_cases h : ∃ t, s = t ++ "."
  · obtain ⟨t, ht⟩ := h
    exact ⟨t, .inl ht⟩
  · exact ⟨s, .inr ⟨rfl, fun u hu => h ⟨u, hu⟩⟩⟩

theorem Unrooted.unique {s t u : String} (ht : Unrooted s t) (hu : Unrooted s u) : t = u := by
  rw [← String.toList_inj, ← dropRoot_eq ht, dropRoot_eq hu]

theorem exists_pieces (t : String) : ∃ pieces, Pieces t pieces := by
  refine ⟨(t.toList.splitOn '.').map String.ofList, by simp [List.splitOn_ne_nil], ?_, ?_⟩
  · rw [← String.toList_inj, String.toList_intercalate, List.map_map]
    have hid : String.toList ∘ String.ofList = id := funext fun _ => String.toList_ofList
    rw [hid, List.map_id]
    exact List.intercalate_splitOn '.'
  · intro piece hpiece
    obtain ⟨cs, hcs, rfl⟩ := List.mem_map.mp hpiece
    rw [String.toList_ofList]
    exact Text.notMem_of_mem_splitOn hcs

theorem Pieces.splitOn_eq {t : String} {pieces : List String} (h : Pieces t pieces) :
    (t.toList.splitOn '.').map String.ofList = pieces := by
  have hsplit : t.toList.splitOn '.' = pieces.map String.toList := by
    rw [← h.joined, String.toList_intercalate]
    refine List.splitOn_intercalate '.' (fun cs hcs => ?_) (by simpa using h.nonempty)
    obtain ⟨piece, hpiece, rfl⟩ := List.mem_map.mp hcs
    exact h.dotless piece hpiece
  have hid : String.ofList ∘ String.toList = id := funext fun _ => String.ofList_toList
  rw [hsplit, List.map_map, hid, List.map_id]

/-- A text is read piece by piece. -/
theorem ofText_of_pieces {s t : String} {pieces : List String} (ht : Unrooted s t) (hne : t ≠ "")
    (h : Pieces t pieces) : ofText s = pieces.mapM Label.ofText >>= ofLabels := by
  have hcs : dropRoot s.toList ≠ [] := by
    rw [dropRoot_eq ht]
    exact fun hnil => hne (String.toList_eq_nil_iff.mp hnil)
  rw [ofText, if_neg hcs, dropRoot_eq ht, ← h.splitOn_eq, List.mapM_map]
  rfl

/-! ## Pieces in turn -/

theorem mapM_ofText_good {pieces : List String} (h : ∀ piece ∈ pieces, Label.Good piece) :
    ∃ labels, pieces.mapM Label.ofText = .ok labels ∧
      labels.map Label.text = pieces.map String.toLower := by
  induction pieces with
  | nil => exact ⟨[], rfl, rfl⟩
  | cons piece pieces ih =>
    obtain ⟨l, hl, htext⟩ := Label.exists_ofText_eq_ok (h piece List.mem_cons_self)
    obtain ⟨ls, hls, htexts⟩ := ih fun p hp => h p (List.mem_cons_of_mem _ hp)
    refine ⟨l :: ls, ?_, by rw [List.map_cons, List.map_cons, htext, htexts]⟩
    rw [List.mapM_cons, hl, hls]
    rfl

theorem mapM_ofText_bad {before after : List String} {piece : String} {e : NameError}
    (hbefore : ∀ p ∈ before, Label.Good p) (h : Label.Bad piece e) :
    (before ++ piece :: after).mapM Label.ofText = .error e := by
  obtain ⟨ls, hls, -⟩ := mapM_ofText_good hbefore
  rw [List.mapM_append, hls, List.mapM_cons, Label.ofText_eq_error h]
  rfl

theorem good_or_leftmost_bad (pieces : List String) : (∀ piece ∈ pieces, Label.Good piece) ∨
    ∃ before piece after e, pieces = before ++ piece :: after ∧ (∀ p ∈ before, Label.Good p) ∧
      Label.Bad piece e := by
  induction pieces with
  | nil => exact .inl fun _ h => absurd h List.not_mem_nil
  | cons piece pieces ih =>
    rcases Label.good_or_bad piece with hgood | ⟨e, hbad⟩
    · rcases ih with hall | ⟨before, bad, after, e, rfl, hbefore, hbad⟩
      · exact .inl (List.forall_mem_cons.mpr ⟨hgood, hall⟩)
      · exact .inr ⟨piece :: before, bad, after, e, rfl, List.forall_mem_cons.mpr ⟨hgood, hbefore⟩,
          hbad⟩
    · exact .inr ⟨[], piece, pieces, e, rfl, fun _ h => absurd h List.not_mem_nil, hbad⟩

/-! ## Lower case -/

theorem toLower_append (s t : String) : (s ++ t).toLower = s.toLower ++ t.toLower := by
  rw [← String.toList_inj, String.toList_append, Text.toList_toLower, Text.toList_toLower,
    Text.toList_toLower, String.toList_append, List.map_append]

theorem toLower_dot : ".".toLower = "." := by
  rw [← String.toList_inj, Text.toList_toLower]
  rfl

theorem toLower_intercalate (pieces : List String) :
    (".".intercalate pieces).toLower = ".".intercalate (pieces.map String.toLower) := by
  induction pieces with
  | nil =>
    rw [← String.toList_inj, Text.toList_toLower]
    rfl
  | cons piece pieces ih =>
    by_cases h : pieces = []
    · subst h
      rw [List.map_singleton, String.intercalate_singleton, String.intercalate_singleton]
    · have h' : pieces.map String.toLower ≠ [] := by simpa using h
      rw [List.map_cons, String.intercalate_cons_of_ne_nil h, String.intercalate_cons_of_ne_nil h',
        toLower_append, toLower_append, toLower_dot, ih]

/-! ## Readings -/

/-- What a text is read as. -/
inductive Reads (s : String) : Except NameError Name → Prop where
  | emptyName (ht : Unrooted s "") : Reads s (.error .emptyName)
  | badPiece {t piece : String} {before after : List String} {e : NameError} (ht : Unrooted s t)
    (hne : t ≠ "") (hpieces : Pieces t (before ++ piece :: after))
    (hbefore : ∀ p ∈ before, Label.Good p) (hpiece : Label.Bad piece e) : Reads s (.error e)
  | longName {t : String} {pieces : List String} (ht : Unrooted s t) (hpieces : Pieces t pieces)
    (hgood : ∀ piece ∈ pieces, Label.Good piece) (hsize : 253 < t.utf8ByteSize) :
    Reads s (.error .longName)
  | name {t : String} {pieces : List String} {n : Name} (ht : Unrooted s t)
    (hpieces : Pieces t pieces) (hgood : ∀ piece ∈ pieces, Label.Good piece)
    (hsize : t.utf8ByteSize ≤ 253) (hlabels : n.labels.map Label.text = pieces.map String.toLower)
    (htext : n.text = t.toLower) : Reads s (.ok n)

theorem ne_empty_of_good {t : String} {pieces : List String} (hpieces : Pieces t pieces)
    (hgood : ∀ piece ∈ pieces, Label.Good piece) : t ≠ "" := by
  rintro rfl
  have hempty : Pieces "" [""] := ⟨by simp, rfl, by simp⟩
  rw [← hpieces.splitOn_eq, hempty.splitOn_eq] at hgood
  exact (hgood "" List.mem_cons_self).nonempty rfl

theorem textSize_of_map_text {t : String} {pieces : List String} {labels : List Label}
    (hpieces : Pieces t pieces) (h : labels.map Label.text = pieces.map String.toLower) :
    textSize labels = t.utf8ByteSize := by
  rw [← utf8ByteSize_intercalate, h, ← toLower_intercalate, Text.utf8ByteSize_toLower,
    hpieces.joined]

theorem ofText_of_reads {s : String} {r : Except NameError Name} (h : Reads s r) :
    ofText s = r := by
  cases h with
  | emptyName ht => rw [ofText, dropRoot_eq ht]; rfl
  | badPiece ht hne hpieces hbefore hpiece =>
    rw [ofText_of_pieces ht hne hpieces, mapM_ofText_bad hbefore hpiece]
    rfl
  | @longName t pieces ht hpieces hgood hsize =>
    obtain ⟨ls, hls, htexts⟩ := mapM_ofText_good hgood
    have hlong : maxSize < textSize ls := by
      rw [textSize_of_map_text hpieces htexts]
      exact hsize
    have hne : ls ≠ [] := by
      rintro rfl
      exact absurd hlong (by decide)
    rw [ofText_of_pieces ht (ne_empty_of_good hpieces hgood) hpieces, hls]
    change ofLabels ls = _
    rw [ofLabels, dif_neg hne, dif_pos hlong]
  | @name t pieces n ht hpieces hgood hsize hlabels htext =>
    obtain ⟨ls, hls, htexts⟩ := mapM_ofText_good hgood
    have hsame : n.labels = ls :=
      List.map_injective_iff.mpr (fun _ _ => Label.ext_text) (hlabels.trans htexts.symm)
    rw [ofText_of_pieces ht (ne_empty_of_good hpieces hgood) hpieces, hls, ← hsame]
    exact ofLabels_labels n

theorem exists_reads (s : String) : ∃ r, Reads s r := by
  obtain ⟨t, ht⟩ := exists_unrooted s
  by_cases hne : t = ""
  · exact ⟨_, .emptyName (hne ▸ ht)⟩
  obtain ⟨pieces, hpieces⟩ := exists_pieces t
  rcases good_or_leftmost_bad pieces with hgood | ⟨before, piece, after, e, rfl, hbefore, hbad⟩
  · rcases Nat.lt_or_ge 253 t.utf8ByteSize with hlong | hsize
    · exact ⟨_, .longName ht hpieces hgood hlong⟩
    · obtain ⟨ls, hls, htexts⟩ := mapM_ofText_good hgood
      have hls : ls ≠ [] := by
        rintro rfl
        exact hpieces.nonempty (List.map_eq_nil_iff.mp htexts.symm)
      refine ⟨.ok ⟨ls, hls, ?_⟩, .name ht hpieces hgood hsize htexts ?_⟩
      · rw [textSize_of_map_text hpieces htexts]
        exact hsize
      · rw [text, htexts, ← toLower_intercalate, hpieces.joined]
  · exact ⟨_, .badPiece ht hne hpieces hbefore hbad⟩

/-- **What a text is read as**, be it a name or a refusal. -/
theorem ofText_eq_iff_reads {s : String} {r : Except NameError Name} :
    ofText s = r ↔ Reads s r := by
  constructor
  · rintro rfl
    obtain ⟨r, hr⟩ := exists_reads s
    rwa [ofText_of_reads hr]
  · exact ofText_of_reads

end Name

end PublicSuffix
