import PublicSuffix.Contact.Exemptions
import PublicSuffix.Proofs.Text.Lines

/-!
# Written sets, line by line

`ofText_linewise`: a written set is the union of what its lines give, so that neither their order
nor their ends matter, and which names a line gives is said without a scan (`Listable`). Every set
of such names can be written.

The names of a text are those of its parts before and after the end of a line (`entries_lineEnd`);
the carriage return that may stand before a line feed is a blank and is trimmed away.
-/

namespace PublicSuffix.Exemptions

open Text (LineEnd joinLines Trimmed BlankAround)

variable {text name : String}

/-- A name that a line can give: it fits into a line, has no blanks around it and does not begin
as a comment. -/
structure Listable (name : String) : Prop where
  nonempty : name ≠ ""
  trimmed : Trimmed name.toList
  oneLine : '\n' ∉ name.toList
  uncommented : ¬['#'] <+: name.toList ∧ ¬['/', '/'] <+: name.toList

theorem isEntry_iff {line : List Char} :
    isEntry line = true ↔ line ≠ [] ∧ ¬['#'] <+: line ∧ ¬['/', '/'] <+: line := by
  simp [isEntry, and_assoc, ← List.isPrefixOf_iff_prefix]

/-! ## The names of a text -/

/-- The names of a text are those that stand alone in a line, blanks apart. -/
theorem mem_entries_iff : name ∈ entries text ↔
    Listable name ∧ ∃ line ∈ text.toList.splitOn '\n', BlankAround name.toList line := by
  simp only [entries, List.mem_map, List.mem_filter, isEntry_iff]
  constructor
  · rintro ⟨t, ⟨⟨line, hline, htrim⟩, hne, huncommented⟩, rfl⟩
    obtain ⟨ht, haround⟩ := Text.trim_eq_iff.mp htrim
    have honeLine : '\n' ∉ t := by
      intro hmem
      obtain ⟨before, after, rfl, -, -⟩ := haround
      apply Text.notMem_of_mem_splitOn hline
      exact List.mem_append_left _ (List.mem_append_right _ hmem)
    rw [← String.toList_ofList (l := t)] at ht haround hne huncommented honeLine
    exact ⟨⟨by simpa using hne, ht, honeLine, huncommented⟩, line, hline, haround⟩
  · rintro ⟨h, line, hline, haround⟩
    have hne : name.toList ≠ [] := by simpa using h.nonempty
    refine ⟨name.toList, ⟨⟨line, hline, ?_⟩, hne, h.uncommented⟩, String.ofList_toList⟩
    exact Text.trim_of_blankAround h.trimmed haround

theorem entries_empty : entries "" = [] := by decide

/-- A name that a line can give is given by itself. -/
theorem entries_of_listable (h : Listable name) : entries name = [name] := by
  have htrim : Text.trim name.toList = name.toList :=
    Text.trim_of_blankAround h.trimmed ⟨[], [], by simp, by simp, by simp⟩
  have hentry : isEntry name.toList = true :=
    isEntry_iff.mpr ⟨by simpa using h.nonempty, h.uncommented⟩
  rw [entries, List.splitOn_eq_singleton h.oneLine, List.map_singleton, htrim,
    List.filter_cons_of_pos hentry, List.filter_nil, List.map_singleton, String.ofList_toList]

/-! ## Lines one after another -/

theorem entries_lineEnd (a b : String) (lineEnd : LineEnd) :
    entries (a ++ lineEnd.text ++ b) = entries a ++ entries b := by
  have hsplit : ∀ cs : List Char, (cs ++ '\n' :: b.toList).splitOn '\n' =
      cs.splitOn '\n' ++ b.toList.splitOn '\n' := fun cs => List.splitOn_append_cons_self cs _
  cases lineEnd with
  | lineFeed =>
    have htext : (a ++ LineEnd.lineFeed.text ++ b).toList = a.toList ++ '\n' :: b.toList := by
      simp [LineEnd.text]
    simp only [entries, htext, hsplit, List.map_append, List.filter_append]
  | carriageReturnLineFeed =>
    have htext : (a ++ LineEnd.carriageReturnLineFeed.text ++ b).toList =
        (a.toList ++ ['\r']) ++ '\n' :: b.toList := by
      simp [LineEnd.text]
    have hreturn : ((a.toList ++ ['\r']).splitOn '\n').map Text.trim =
        (a.toList.splitOn '\n').map Text.trim :=
      Text.map_trim_splitOn_concat (by decide) (by decide) _
    simp only [entries, htext, hsplit, hreturn, List.map_append, List.filter_append]

theorem entries_joinLines (lines : List (String × LineEnd)) (last : String) :
    entries (joinLines lines last) = (lines.map Prod.fst).flatMap entries ++ entries last := by
  induction lines with
  | nil => rfl
  | cons line lines ih =>
    obtain ⟨line, lineEnd⟩ := line
    rw [joinLines, entries_lineEnd, ih, List.map_cons, List.flatMap_cons, List.append_assoc]

theorem mem_entries_joinLines {lines : List (String × LineEnd)} {last : String} :
    name ∈ entries (joinLines lines last) ↔
      ∃ line, line ≠ "" ∧ line ∈ last :: lines.map Prod.fst ∧ name ∈ entries line := by
  have hne : ∀ line, name ∈ entries line → line ≠ "" := by
    rintro line hname rfl
    rw [entries_empty] at hname
    exact List.not_mem_nil hname
  rw [entries_joinLines, List.mem_append, List.mem_flatMap]
  constructor
  · rintro (⟨line, hline, hname⟩ | hname)
    · exact ⟨line, hne line hname, List.mem_cons_of_mem _ hline, hname⟩
    · exact ⟨last, hne last hname, List.mem_cons_self, hname⟩
  · rintro ⟨line, -, hline, hname⟩
    rcases List.mem_cons.mp hline with rfl | hline
    · exact .inr hname
    · exact .inl ⟨line, hline, hname⟩

theorem flatMap_entries_of_listable {names : List String} (h : ∀ name ∈ names, Listable name) :
    names.flatMap entries = names := by
  induction names with
  | nil => rfl
  | cons name names ih =>
    obtain ⟨hname, hnames⟩ := List.forall_mem_cons.mp h
    rw [List.flatMap_cons, entries_of_listable hname, ih hnames]
    rfl

/-! ## Sets -/

theorem mem_ofText : name ∈ ofText text ↔ name ∈ entries text := mem_ofNames

/-- **A written set is made of its lines.** A line feed between two texts gives the union of their
sets. Texts with the same lines, empty ones apart, give the same set, in whatever order and however
often the lines come and whichever way they end. The names are those that can be listed and stand
alone in a line, blanks apart; and names that can be listed are read back from a line for each. -/
theorem ofText_linewise :
    (∀ a b name, name ∈ ofText (a ++ "\n" ++ b) ↔ name ∈ ofText a ∨ name ∈ ofText b) ∧
    (∀ (lines lines' : List (String × LineEnd)) (last last' : String),
      (∀ line, line ≠ "" →
        (line ∈ last :: lines.map Prod.fst ↔ line ∈ last' :: lines'.map Prod.fst)) →
      (ofText (joinLines lines last)).same (ofText (joinLines lines' last')) = true) ∧
    (∀ text name, name ∈ ofText text ↔
      Listable name ∧ ∃ line ∈ text.toList.splitOn '\n', BlankAround name.toList line) ∧
    ∀ names : List String, (∀ name ∈ names, Listable name) →
      ofText (joinLines (names.map (·, .lineFeed)) "") = ofNames names := by
  refine ⟨fun a b name => ?_, fun lines lines' last last' h => ?_, fun text name => ?_,
    fun names h => ?_⟩
  · rw [mem_ofText, mem_ofText, mem_ofText, ← List.mem_append, ← entries_lineEnd a b .lineFeed]
    rfl
  · rw [same_iff]
    intro name
    rw [mem_ofText, mem_ofText, mem_entries_joinLines, mem_entries_joinLines]
    apply exists_congr
    intro line
    exact and_congr_right fun hne => and_congr_left' (h line hne)
  · rw [mem_ofText, mem_entries_iff]
  · have hlines : (names.map fun name => (name, LineEnd.lineFeed)).map Prod.fst = names := by
      rw [List.map_map]
      exact List.map_id names
    rw [ofText, entries_joinLines, hlines, flatMap_entries_of_listable h, entries_empty,
      List.append_nil]

/-- A comment, a name that ends in `\r\n`, and the same name twice in another order. -/
theorem linewise_ministry :
    joinLines [("Ministry of Tests", .carriageReturnLineFeed), ("# zones", .lineFeed)] "" =
      "Ministry of Tests\r\n# zones\n" ∧
    (ofText (joinLines
      [("Ministry of Tests", .carriageReturnLineFeed), ("# zones", .lineFeed)] "")).same
      (ofText (joinLines [("# zones", .lineFeed), ("Ministry of Tests", .lineFeed)]
        "Ministry of Tests")) = true ∧
    Listable "Ministry of Tests" ∧
    ofText (joinLines [("Ministry of Tests", .lineFeed)] "") = ofNames ["Ministry of Tests"] := by
  obtain ⟨-, hsame, -, hread⟩ := ofText_linewise
  have htrimmed : Trimmed "Ministry of Tests".toList :=
    ⟨by rintro _ ⟨⟩; rfl, by rintro _ ⟨⟩; rfl⟩
  have hlistable : Listable "Ministry of Tests" :=
    ⟨by decide, htrimmed, by decide, by decide, by decide⟩
  refine ⟨by decide, ?_, hlistable, hread ["Ministry of Tests"] (by simpa using hlistable)⟩
  apply hsame
  intro line hne
  simp only [List.map_cons, List.map_nil, List.mem_cons, List.not_mem_nil, hne]
  tauto

end PublicSuffix.Exemptions
