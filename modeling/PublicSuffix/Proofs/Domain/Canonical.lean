import PublicSuffix.Proofs.Domain.Grammar

/-!
# The text of a name as its key

`text_identifies`: the text of a name is read as that name, with or without the root dot, so names
are the same if and only if their texts are. Two texts that write names write the same one if and
only if they are the same text in lower case, root dots apart.

The text of a name does not end in a dot, since its last label has a last character and no label
holds a dot (`exists_getLast?_intercalate`); so nothing is dropped from it when it is read.
-/

namespace PublicSuffix.Name

theorem exists_getLast?_intercalate {labels : List Label} (h : labels ≠ []) :
    ∃ c, (".".intercalate (labels.map Label.text)).toList.getLast? = some c ∧ c ≠ '.' := by
  induction labels with
  | nil => exact absurd rfl h
  | cons l ls ih =>
    by_cases hls : ls = []
    · subst hls
      rw [List.map_singleton, String.intercalate_singleton]
      have hne : l.text.toList ≠ [] := fun hnil => l.nonempty (String.toList_eq_nil_iff.mp hnil)
      refine ⟨_, List.getLast?_eq_some_getLast hne, fun hdot => l.dot_notMem ?_⟩
      rw [← hdot]
      exact List.getLast_mem hne
    · obtain ⟨c, hc, hdot⟩ := ih hls
      refine ⟨c, ?_, hdot⟩
      rw [intercalate_cons l hls, String.toList_append, List.getLast?_append, hc]
      rfl

/-- A text that ends with a name's text has no root dot. -/
theorem unrooted_append_text (s : String) (n : Name) : Unrooted (s ++ n.text) (s ++ n.text) := by
  refine .inr ⟨rfl, fun u hu => ?_⟩
  obtain ⟨c, hc, hdot⟩ := exists_getLast?_intercalate n.nonempty
  have hlast : (s ++ n.text).toList.getLast? = some c := by
    rw [String.toList_append, List.getLast?_append, text, hc]
    rfl
  rw [eq_append_dot_iff.mp hu, List.getLast?_concat] at hlast
  exact hdot (Option.some.inj hlast).symm

theorem unrooted_text (n : Name) : Unrooted n.text n.text := by
  simpa using unrooted_append_text "" n

theorem pieces_text (n : Name) : Pieces n.text (n.labels.map Label.text) where
  nonempty := by simpa using n.nonempty
  joined := rfl
  dotless := by
    intro piece hpiece
    obtain ⟨l, _, rfl⟩ := List.mem_map.mp hpiece
    exact l.dot_notMem

theorem toLower_text (n : Name) : n.text.toLower = n.text := by
  have hlabels : (n.labels.map Label.text).map String.toLower = n.labels.map Label.text := by
    rw [List.map_map]
    exact List.map_congr_left fun l _ => l.toLower_text
  rw [text, toLower_intercalate, hlabels]

/-! ## Texts that write a name -/

theorem toLower_eq_dot_iff {c : Char} : c.toLower = '.' ↔ c = '.' := by
  cases h : c.isUpper with
  | false => rw [Text.toLower_of_not_isUpper h]
  | true =>
    -- a capital goes to a place beyond the dot and lies there itself
    obtain ⟨hmin, -, hlower⟩ := Text.toNat_toLower_of_isUpper h
    constructor
    · intro hdot
      rw [hdot] at hlower
      simp only [Char.reduceToNat] at hlower
      omega
    · rintro rfl
      simp at hmin

theorem Pieces.toLower {t : String} {pieces : List String} (h : Pieces t pieces) :
    Pieces t.toLower (pieces.map String.toLower) where
  nonempty := by simpa using h.nonempty
  joined := by rw [← toLower_intercalate, h.joined]
  dotless := by
    intro piece hpiece
    obtain ⟨p, hp, rfl⟩ := List.mem_map.mp hpiece
    rw [Text.toList_toLower, List.mem_map]
    rintro ⟨c, hc, hdot⟩
    exact h.dotless p hp (toLower_eq_dot_iff.mp hdot ▸ hc)

/-- A text that is a label in lower case can be read as one. -/
theorem good_of_toLower {piece : String} {l : Label} (h : piece.toLower = l.text) :
    Label.Good piece where
  nonempty := by
    rintro rfl
    refine l.nonempty (h.symm.trans ?_)
    rw [← String.toList_inj, Text.toList_toLower]
    rfl
  size_le := by
    rw [← Text.utf8ByteSize_toLower, h]
    exact l.size_le
  allowed c hc := by
    refine Label.isAllowed_iff.mp ?_
    cases hupper : c.isUpper with
    | true =>
      have halphanum : c.isAlphanum = true := by
        show (c.isUpper || c.isLower || c.isDigit) = true
        rw [hupper, Bool.true_or, Bool.true_or]
      rw [Label.isAllowed, halphanum, Bool.true_or, Bool.true_or, Bool.true_or]
    | false =>
      have hlower : c.toLower ∈ l.text.toList := by
        rw [← h, Text.toList_toLower]
        exact List.mem_map_of_mem hc
      rw [Text.toLower_of_not_isUpper hupper] at hlower
      exact Label.isAllowed_of_isCanonical (l.canonical c hlower)

/-- Which texts write a name: those that are its text, but for capitals and a root dot. -/
theorem ofText_eq_ok_iff {s t : String} {n : Name} (hs : Unrooted s t) :
    ofText s = .ok n ↔ t.toLower = n.text := by
  constructor
  · intro h
    obtain ⟨r, hr⟩ := exists_reads s
    rw [ofText_of_reads hr] at h
    subst h
    cases hr with
    | name hu _ _ _ _ htext => rw [htext, hu.unique hs]
  · intro h
    obtain ⟨pieces, hpieces⟩ := exists_pieces t
    have hlabels : n.labels.map Label.text = pieces.map String.toLower := by
      have hlower := hpieces.toLower
      rw [h] at hlower
      rw [← n.pieces_text.splitOn_eq, hlower.splitOn_eq]
    refine ofText_of_reads (.name hs hpieces (fun piece hpiece => ?_) ?_ hlabels h.symm)
    · obtain ⟨l, _, hl⟩ := List.mem_map.mp (hlabels ▸ List.mem_map_of_mem hpiece)
      exact good_of_toLower hl.symm
    · rw [← Text.utf8ByteSize_toLower, h]
      exact n.utf8ByteSize_text_le

theorem unrooted_of_toLower {s t : String} {n : Name} (hs : s = t ∨ s = t ++ ".")
    (ht : t.toLower = n.text) : Unrooted s t := by
  rcases hs with rfl | hs
  · refine .inr ⟨rfl, fun u hu => ?_⟩
    rw [hu, toLower_append, toLower_dot] at ht
    rcases n.unrooted_text with hdot | ⟨-, hnone⟩
    · exact absurd (congrArg String.utf8ByteSize hdot) (by simp)
    · exact hnone _ ht.symm
  · exact .inl hs

/-- **The text of a name identifies it**, however the name was made. It is read as the name again,
also with the root dot; equal texts are texts of equal names; and texts write the same name exactly
if they agree in lower case and without the root dot. -/
theorem text_identifies :
    (∀ n : Name, ofText n.text = .ok n ∧ ofText (n.text ++ ".") = .ok n) ∧
    (∀ m n : Name, m = n ↔ m.text = n.text) ∧
    ∀ {a b s t : String} {m n : Name}, Unrooted a s → Unrooted b t → ofText a = .ok m →
      ofText b = .ok n → (m = n ↔ s.toLower = t.toLower) := by
  have hiff : ∀ m n : Name, m = n ↔ m.text = n.text := fun m n =>
    ⟨congrArg text, text_injective⟩
  refine ⟨fun n => ⟨?_, ?_⟩, hiff, fun {a b s t m n} hs ht hm hn => ?_⟩
  · exact (ofText_eq_ok_iff n.unrooted_text).mpr n.toLower_text
  · exact (ofText_eq_ok_iff (.inl rfl)).mpr n.toLower_text
  · rw [hiff, ← (ofText_eq_ok_iff hs).mp hm, ← (ofText_eq_ok_iff ht).mp hn]

def cafeName : Name where
  labels := [⟨"cafe", by decide, by decide, List.all_eq_true.mp (by decide)⟩]
  nonempty := by decide
  size_le := by decide

/-- Capitals and the root dot make no difference. -/
theorem same_cafe : ∃ m n, Unrooted "Cafe." "Cafe" ∧ Unrooted "cAFE" "cAFE" ∧
    ofText "Cafe." = .ok m ∧ ofText "cAFE" = .ok n ∧ "Cafe".toLower = "cAFE".toLower ∧ m = n := by
  have hdot : Unrooted "Cafe." "Cafe" := .inl (by decide)
  have hnone : Unrooted "cAFE" "cAFE" := by
    refine .inr ⟨rfl, fun u hu => ?_⟩
    have hlast := congrArg List.getLast? (eq_append_dot_iff.mp hu)
    rw [List.getLast?_concat] at hlast
    exact absurd hlast (by decide)
  have hlower : "Cafe".toLower = "cafe" ∧ "cAFE".toLower = "cafe" := by
    simp only [← String.toList_inj, Text.toList_toLower]
    decide
  have hm : ofText "Cafe." = .ok cafeName := (ofText_eq_ok_iff hdot).mpr hlower.1
  have hn : ofText "cAFE" = .ok cafeName := (ofText_eq_ok_iff hnone).mpr hlower.2
  have hsame := hlower.1.trans hlower.2.symm
  exact ⟨_, _, hdot, hnone, hm, hn, hsame, (text_identifies.2.2 hdot hnone hm hn).mpr hsame⟩

end PublicSuffix.Name
