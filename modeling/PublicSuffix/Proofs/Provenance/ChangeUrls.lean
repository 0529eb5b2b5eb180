import PublicSuffix.Provenance.ChangeUrl
import PublicSuffix.Proofs.Provenance.Pattern
import Mathlib.Data.List.TakeWhile

/-!
# Change URLs as matches of a pattern

The scan for a change URL goes through lines and looks for the first scheme and for the last number
after it. That this is a search for `https://.*/([0-9]+)` takes two facts. It does not matter which
scheme of a line is taken, as long as a number comes after it, for the last number is the same
(`numberInLine?_eq_some_iff_exists`); so the leftmost will do. And the repetition gives back
characters from the end of the line, so that the number captured is the last one (`grab?_tail`).

In `changeId_leftmost_greedy` the result is also told without scan and pattern, by `FirstUrl`.
-/

namespace PublicSuffix.ChangeUrl

/-- The pattern of change URLs, `https://.*/([0-9]+)`. A point stands for all but a line feed. -/
def pattern : Pattern :=
  .word "https://".toList (.seq (.many (· != '\n')) (.seq (.one (· == '/'))
    (.group (.seq (.one Char.isDigit) (.many Char.isDigit)))))

example : pattern.capture? "https://a.example/1 https://b.example/22/x/333y/z".toList =
    some ['3', '3', '3'] := by decide
example : pattern.capture? "https://5\nhttps:///06".toList = some ['0', '6'] := by decide

variable {cs ds line digits : List Char} {text : String}

/-! ## The number of a line -/

/-- Somewhere in the text, a digit follows a slash. -/
def HasNumber (cs : List Char) : Prop :=
  ∃ before d after, cs = before ++ '/' :: d :: after ∧ d.isDigit = true

/-- `digits` are all the digits after the last slash of the text that a digit follows. -/
structure LastNumber (cs digits : List Char) : Prop where
  nonempty : digits ≠ []
  all_digits : ∀ d ∈ digits, d.isDigit = true
  last : ∃ before after, cs = before ++ '/' :: (digits ++ after) ∧
    (∀ c ∈ after.head?, c.isDigit = false) ∧ ¬HasNumber (digits ++ after)

/-- The line has a change URL: the scheme, and further on a number. -/
def HasUrl (line : List Char) : Prop :=
  ∃ before after, line = before ++ "https://".toList ++ after ∧ HasNumber after

theorem lastNumber?_cons (c : Char) (cs : List Char) : lastNumber? (c :: cs) =
    (lastNumber? cs).or (if c = '/' ∧ leadingDigits cs ≠ [] then some (leadingDigits cs) else none) := by
  rw [lastNumber?]
  cases lastNumber? cs <;> rfl

theorem leadingDigits_ne_nil_iff :
    leadingDigits cs ≠ [] ↔ ∃ d ds, cs = d :: ds ∧ d.isDigit = true := by
  cases cs with
  | nil => simp [leadingDigits]
  | cons c cs => simp [leadingDigits, List.takeWhile_cons]

theorem hasNumber_cons_iff {c : Char} :
    HasNumber (c :: cs) ↔ HasNumber cs ∨ c = '/' ∧ leadingDigits cs ≠ [] := by
  rw [leadingDigits_ne_nil_iff]
  constructor
  · rintro ⟨before, d, after, heq, hd⟩
    cases before with
    | nil =>
      cases heq
      exact .inr ⟨rfl, d, after, rfl, hd⟩
    | cons b before =>
      cases heq
      exact .inl ⟨before, d, after, rfl, hd⟩
  · rintro (⟨before, d, after, rfl, hd⟩ | ⟨rfl, d, after, rfl, hd⟩)
    · exact ⟨c :: before, d, after, rfl, hd⟩
    · exact ⟨[], d, after, rfl, hd⟩

theorem not_hasNumber_nil : ¬HasNumber [] := by
  rintro ⟨before, d, after, heq, -⟩
  simp at heq

theorem lastNumber?_eq_none_iff : lastNumber? cs = none ↔ ¬HasNumber cs := by
  induction cs with
  | nil => exact iff_of_true rfl not_hasNumber_nil
  | cons c cs ih =>
    rw [lastNumber?_cons, Option.or_eq_none_iff, ih, hasNumber_cons_iff, not_or]
    simp

theorem lastNumber?_append (before : List Char) (h : lastNumber? cs = some digits) :
    lastNumber? (before ++ cs) = some digits := by
  induction before with
  | nil => exact h
  | cons c before ih => rw [List.cons_append, lastNumber?_cons, ih, Option.some_or]

theorem leadingDigits_append {after : List Char} (hdigits : ∀ d ∈ digits, d.isDigit = true)
    (hafter : ∀ c ∈ after.head?, c.isDigit = false) : leadingDigits (digits ++ after) = digits := by
  rw [leadingDigits, List.takeWhile_append_of_pos hdigits]
  cases after with
  | nil => simp
  | cons c after =>
    have hc : c.isDigit = false := hafter c rfl
    simp [hc]

theorem lastNumber?_eq_some_iff : lastNumber? cs = some digits ↔ LastNumber cs digits := by
  constructor
  · intro h
    induction cs with
    | nil => cases h
    | cons c cs ih =>
      rw [lastNumber?_cons] at h
      cases hcs : lastNumber? cs with
      | some ds =>
        rw [hcs] at h
        cases h
        obtain ⟨hne, hdigits, before, after, heq, hafter, hlast⟩ := ih hcs
        refine ⟨hne, hdigits, c :: before, after, ?_, hafter, hlast⟩
        rw [heq, List.cons_append]
      | none =>
        -- the slash `c` is the last one that a digit follows
        rw [hcs, Option.none_or] at h
        split at h
        · next hc =>
          cases h
          have hsplit : leadingDigits cs ++ cs.dropWhile Char.isDigit = cs :=
            List.takeWhile_append_dropWhile
          refine ⟨hc.2, fun d hd => List.mem_takeWhile_imp hd, [], cs.dropWhile Char.isDigit,
            ?_, ?_, ?_⟩
          · rw [hsplit, hc.1, List.nil_append]
          · intro d hd
            have := List.head?_dropWhile_not Char.isDigit cs
            rw [Option.mem_def.mp hd] at this
            simpa using this
          · rw [hsplit]
            exact lastNumber?_eq_none_iff.mp hcs
        · cases h
  · rintro ⟨hne, hdigits, before, after, rfl, hafter, hlast⟩
    apply lastNumber?_append
    rw [lastNumber?_cons, lastNumber?_eq_none_iff.mpr hlast, Option.none_or,
      leadingDigits_append hdigits hafter, if_pos ⟨rfl, hne⟩]

/-! ## The number of a change URL -/

theorem exists_of_afterScheme? {rest : List Char} (h : afterScheme? line = some rest) :
    ∃ before, line = before ++ scheme ++ rest := by
  induction line with
  | nil => cases h
  | cons c line ih =>
    rw [afterScheme?] at h
    split at h
    · next hprefix =>
      refine ⟨[], ?_⟩
      rw [List.nil_append, ← Option.some.inj h]
      exact (List.prefix_iff_eq_append.mp (List.isPrefixOf_iff_prefix.mp hprefix)).symm
    · obtain ⟨before, heq⟩ := ih h
      exact ⟨c :: before, by rw [heq]; rfl⟩

theorem afterScheme?_of_prefix (h : scheme <+: line) :
    afterScheme? line = some (line.drop scheme.length) := by
  cases line with
  | nil => exact absurd (List.prefix_nil.mp h) (by decide)
  | cons c line => rw [afterScheme?, if_pos (List.isPrefixOf_iff_prefix.mpr h)]

/-- The first scheme of a line leaves at least as much of it as any other. -/
theorem exists_afterScheme?_eq {before after : List Char} (h : line = before ++ scheme ++ after) :
    ∃ rest, afterScheme? line = some rest ∧ after <:+ rest := by
  induction before generalizing line with
  | nil =>
    have hprefix : scheme <+: line := ⟨after, h.symm⟩
    refine ⟨_, afterScheme?_of_prefix hprefix, ?_⟩
    rw [h, List.nil_append, List.drop_left]
  | cons c before ih =>
    by_cases hprefix : scheme <+: line
    · -- both are ends of the line, and `after` is the shorter one
      refine ⟨_, afterScheme?_of_prefix hprefix, ?_⟩
      have hlength := congrArg List.length h
      rw [List.length_append, List.length_append, List.length_cons] at hlength
      have hafter : after <:+ line := ⟨c :: before ++ scheme, h.symm⟩
      apply List.suffix_of_suffix_length_le hafter (List.drop_suffix _ _)
      rw [List.length_drop]
      omega
    · obtain ⟨rest, hrest, hsuffix⟩ := ih rfl
      refine ⟨rest, ?_, hsuffix⟩
      rw [List.cons_append, List.cons_append] at h
      rw [h, afterScheme?, if_neg, hrest]
      intro hscheme
      exact hprefix (h ▸ List.isPrefixOf_iff_prefix.mp hscheme)

theorem lastNumber?_of_suffix {after : List Char} (h : after <:+ cs)
    (hnumber : lastNumber? after = some digits) : lastNumber? cs = some digits := by
  obtain ⟨before, rfl⟩ := h
  exact lastNumber?_append before hnumber

/-- Any scheme with a number after it tells the number of the line. -/
theorem numberInLine?_eq_some_iff_exists : numberInLine? line = some digits ↔
    ∃ before after, line = before ++ scheme ++ after ∧ lastNumber? after = some digits := by
  constructor
  · intro h
    obtain ⟨after, hafter, hlast⟩ := Option.bind_eq_some_iff.mp h
    obtain ⟨before, heq⟩ := exists_of_afterScheme? hafter
    exact ⟨before, after, heq, hlast⟩
  · rintro ⟨before, after, heq, hlast⟩
    obtain ⟨rest, hrest, hsuffix⟩ := exists_afterScheme?_eq heq
    rw [numberInLine?, hrest, Option.bind_some, lastNumber?_of_suffix hsuffix hlast]

theorem lastNumber?_of_numberInLine? (h : numberInLine? line = some digits) :
    lastNumber? line = some digits := by
  obtain ⟨before, after, heq, hlast⟩ := numberInLine?_eq_some_iff_exists.mp h
  exact lastNumber?_of_suffix ⟨before ++ scheme, heq.symm⟩ hlast

theorem hasUrl_iff : HasUrl line ↔ ∃ ds, numberInLine? line = some ds := by
  constructor
  · rintro ⟨before, after, heq, hnumber⟩
    cases hlast : lastNumber? after with
    | none => exact absurd hnumber (lastNumber?_eq_none_iff.mp hlast)
    | some ds => exact ⟨ds, numberInLine?_eq_some_iff_exists.mpr ⟨before, after, heq, hlast⟩⟩
  · rintro ⟨ds, hds⟩
    obtain ⟨before, after, heq, hlast⟩ := numberInLine?_eq_some_iff_exists.mp hds
    refine ⟨before, after, heq, ?_⟩
    by_contra hnumber
    rw [lastNumber?_eq_none_iff.mpr hnumber] at hlast
    cases hlast

theorem numberInLine?_eq_none_iff : numberInLine? line = none ↔ ¬HasUrl line := by
  rw [hasUrl_iff, not_exists, Option.eq_none_iff_forall_ne_some]

theorem numberInLine?_eq_some_iff :
    numberInLine? line = some digits ↔ HasUrl line ∧ LastNumber line digits := by
  rw [hasUrl_iff, ← lastNumber?_eq_some_iff]
  constructor
  · intro h
    exact ⟨⟨digits, h⟩, lastNumber?_of_numberInLine? h⟩
  · rintro ⟨⟨ds, hds⟩, hlast⟩
    rw [lastNumber?_of_numberInLine? hds] at hlast
    rw [hds, hlast]

/-! ## Change URLs from left to right -/

/-- The number of the change URL that a line begins with. -/
def numberAt? (line : List Char) : Option (List Char) :=
  if scheme <+: line then lastNumber? (line.drop scheme.length) else none

theorem numberAt?_scheme_append (after : List Char) :
    numberAt? (scheme ++ after) = lastNumber? after := by
  rw [numberAt?, if_pos (List.prefix_append _ _), List.drop_left]

theorem exists_of_numberAt? (h : numberAt? line = some digits) :
    ∃ after, line = scheme ++ after ∧ lastNumber? after = some digits := by
  unfold numberAt? at h
  split at h
  · next hprefix =>
    obtain ⟨after, rfl⟩ := hprefix
    rw [List.drop_left] at h
    exact ⟨after, rfl, h⟩
  · cases h

theorem numberInLine?_cons (c : Char) (line : List Char) :
    numberInLine? (c :: line) = (numberAt? (c :: line)).or (numberInLine? line) := by
  cases hat : numberAt? (c :: line) with
  | some ds =>
    obtain ⟨after, heq, hlast⟩ := exists_of_numberAt? hat
    rw [Option.some_or]
    exact numberInLine?_eq_some_iff_exists.mpr ⟨[], after, heq, hlast⟩
  | none =>
    -- so a scheme with a number after it begins further on
    rw [Option.none_or]
    ext ds
    rw [numberInLine?_eq_some_iff_exists, numberInLine?_eq_some_iff_exists]
    constructor
    · rintro ⟨before, after, heq, hlast⟩
      cases before with
      | nil =>
        rw [heq, List.nil_append, numberAt?_scheme_append, hlast] at hat
        cases hat
      | cons b before => exact ⟨before, after, (List.cons.inj heq).2, hlast⟩
    · rintro ⟨before, after, rfl, hlast⟩
      exact ⟨c :: before, after, rfl, hlast⟩

/-! ## The scan and the pattern -/

/-- What the pattern sees of a text after a scheme. -/
def restOfLine (cs : List Char) : List Char := cs.takeWhile (· != '\n')

theorem restOfLine_cons {c : Char} (h : c ≠ '\n') (cs : List Char) :
    restOfLine (c :: cs) = c :: restOfLine cs :=
  List.takeWhile_cons_of_pos (bne_iff_ne.mpr h)

theorem leadingDigits_restOfLine (cs : List Char) :
    leadingDigits (restOfLine cs) = cs.takeWhile Char.isDigit := by
  rw [leadingDigits, restOfLine, List.takeWhile_takeWhile]
  congr 1
  funext c
  by_cases hc : c = '\n'
  · subst hc
    rfl
  · simp [hc]

theorem restOfLine_scheme_append (cs : List Char) :
    restOfLine (scheme ++ cs) = scheme ++ restOfLine cs :=
  List.takeWhile_append_of_pos (List.all_eq_true.mp (by decide))

theorem prefix_restOfLine_iff : scheme <+: restOfLine cs ↔ scheme <+: cs := by
  constructor
  · intro h
    exact h.trans (List.takeWhile_prefix _)
  · rintro ⟨after, rfl⟩
    exact ⟨restOfLine after, (restOfLine_scheme_append after).symm⟩

/-- Going back from the end of the line, the pattern finds the last number. -/
theorem grab?_tail (cs : List Char) :
    (Pattern.seq (.many (· != '\n')) (.seq (.one (· == '/'))
      (.group (.seq (.one Char.isDigit) (.many Char.isDigit))))).grab? cs =
    (lastNumber? (restOfLine cs)).map some := by
  induction cs with
  | nil => rfl
  | cons c cs ih =>
    rw [Pattern.grab?_many_seq_cons, Pattern.grab?_one_seq_cons, Pattern.grab?_group_run, ih]
    by_cases hc : c = '\n'
    · subst hc
      rfl
    · rw [restOfLine_cons hc, lastNumber?_cons, leadingDigits_restOfLine, Option.map_or,
        if_pos (bne_iff_ne.mpr hc)]
      congr 1
      -- without a number further on, it is to be the one that follows `c`
      by_cases hslash : c = '/'
      · by_cases hdigits : cs.takeWhile Char.isDigit = [] <;> simp [hslash, hdigits]
      · simp [hslash]

theorem grab?_pattern (cs : List Char) :
    pattern.grab? cs = (numberAt? (restOfLine cs)).map some := by
  show (Pattern.word scheme _).grab? cs = _
  rw [Pattern.grab?_word, grab?_tail]
  by_cases hprefix : scheme <+: cs
  · obtain ⟨after, rfl⟩ := hprefix
    rw [if_pos (List.isPrefixOf_iff_prefix.mpr (List.prefix_append _ _)), List.drop_left,
      restOfLine_scheme_append, numberAt?_scheme_append]
  · rw [numberAt?, if_neg (mt prefix_restOfLine_iff.mp hprefix), if_neg]
    · rfl
    · intro h
      exact hprefix (List.isPrefixOf_iff_prefix.mp h)

theorem splitOn_eq_cons (cs : List Char) :
    ∃ lines, cs.splitOn '\n' = restOfLine cs :: lines := by
  induction cs with
  | nil => exact ⟨[], rfl⟩
  | cons c cs ih =>
    obtain ⟨lines, hlines⟩ := ih
    rw [List.splitOn_cons_eq_if_modifyHead, hlines]
    by_cases hc : c = '\n'
    · subst hc
      exact ⟨_, rfl⟩
    · refine ⟨lines, ?_⟩
      rw [if_neg (by simpa using hc), restOfLine_cons hc, List.modifyHead_cons]

theorem findSome?_cons_eq_or {α β : Type} (f : α → Option β) (a : α) (l : List α) :
    (a :: l).findSome? f = (f a).or (l.findSome? f) := by
  rw [List.findSome?_cons]
  cases f a <;> rfl

/-- The leftmost place of a text from which a number is found lies in its first line with one. -/
theorem findSome?_tails (cs : List Char) :
    cs.tails.findSome? (fun t => numberAt? (restOfLine t)) =
      (cs.splitOn '\n').findSome? numberInLine? := by
  induction cs with
  | nil => decide
  | cons c cs ih =>
    obtain ⟨lines, hlines⟩ := splitOn_eq_cons cs
    rw [List.tails_cons, findSome?_cons_eq_or, ih, List.splitOn_cons_eq_if_modifyHead, hlines]
    by_cases hc : c = '\n'
    · subst hc
      rfl
    · rw [if_neg (by simpa using hc), restOfLine_cons hc, List.modifyHead_cons,
        findSome?_cons_eq_or, findSome?_cons_eq_or, numberInLine?_cons, Option.or_assoc]

theorem capture?_pattern (text : String) : pattern.capture? text.toList = number? text := by
  rw [Pattern.capture?_eq_findSome?, number?, ← findSome?_tails, funext grab?_pattern]
  calc (text.toList.tails.findSome? fun cs => (numberAt? (restOfLine cs)).map some).join
      = ((text.toList.tails.findSome? fun cs => numberAt? (restOfLine cs)).map some).join := by
        rw [List.map_findSome?]
        rfl
    _ = text.toList.tails.findSome? fun cs => numberAt? (restOfLine cs) := by
        cases text.toList.tails.findSome? fun cs => numberAt? (restOfLine cs) <;> rfl

/-! ## The change of a text -/

/-- The digits of the first line with a change URL, if there is one. -/
inductive FirstUrl (text : String) : Option (List Char) → Prop where
  | absent (h : ∀ line ∈ text.toList.splitOn '\n', ¬HasUrl line) : FirstUrl text none
  | present {before after : List (List Char)} {line digits : List Char}
    (hlines : text.toList.splitOn '\n' = before ++ line :: after)
    (hbefore : ∀ b ∈ before, ¬HasUrl b) (hurl : HasUrl line) (hdigits : LastNumber line digits) :
    FirstUrl text (some digits)

/-- What follows from the digits found. Their number may have leading zeros, and any length. -/
inductive Decides : Option (List Char) → Except LookupError (Option ChangeId) → Prop where
  | nothing : Decides none (.ok none)
  | change {digits : List Char} {n : ChangeId} (h : Text.decimal digits = n.toNat) :
    Decides (some digits) (.ok (some n))
  | tooLarge {digits : List Char} (h : UInt64.size ≤ Text.decimal digits) :
    Decides (some digits) (.error (.badChangeId (String.ofList digits)))

theorem number?_eq_iff {found : Option (List Char)} :
    number? text = found ↔ FirstUrl text found := by
  cases found with
  | none =>
    rw [number?, List.findSome?_eq_none_iff]
    simp only [numberInLine?_eq_none_iff]
    constructor
    · intro h
      exact .absent h
    · rintro ⟨h⟩
      exact h
  | some digits =>
    rw [number?, List.findSome?_eq_some_iff]
    simp only [numberInLine?_eq_none_iff, numberInLine?_eq_some_iff]
    constructor
    · rintro ⟨before, line, after, hlines, ⟨hurl, hdigits⟩, hbefore⟩
      exact .present hlines hbefore hurl hdigits
    · rintro (_ | ⟨hlines, hbefore, hurl, hdigits⟩)
      exact ⟨_, _, _, hlines, ⟨hurl, hdigits⟩, hbefore⟩

theorem decides_changeId (text : String) : Decides (number? text) (changeId text) := by
  unfold changeId
  cases number? text with
  | none => exact .nothing
  | some digits =>
    by_cases hsize : Text.decimal digits < UInt64.size
    · show Decides (some digits) (if _ then _ else _)
      rw [if_pos hsize]
      exact .change (UInt64.toNat_ofNat_of_lt' hsize).symm
    · show Decides (some digits) (if _ then _ else _)
      rw [if_neg hsize]
      exact .tooLarge (Nat.not_lt.mp hsize)

theorem Decides.unique {found : Option (List Char)}
    {x y : Except LookupError (Option ChangeId)} (hx : Decides found x) (hy : Decides found y) :
    x = y := by
  cases hx with
  | nothing =>
    cases hy
    rfl
  | @change _ n hn =>
    cases hy with
    | @change _ m hm => rw [UInt64.toNat_inj.mp (hn.symm.trans hm)]
    | tooLarge h => exact absurd (hn ▸ n.toNat_lt) (Nat.not_lt.mpr h)
  | tooLarge h =>
    cases hy with
    | @change _ m hm => exact absurd (hm ▸ m.toNat_lt) (Nat.not_lt.mpr h)
    | tooLarge _ => rfl

theorem changeId_eq_iff {result : Except LookupError (Option ChangeId)} :
    changeId text = result ↔ Decides (number? text) result := by
  constructor
  · rintro rfl
    exact decides_changeId text
  · intro h
    exact (decides_changeId text).unique h

/-- **The change of a text** is that of the preferred match of the pattern at the leftmost place
with one, which is the last number in the first line with a change URL. -/
theorem changeId_leftmost_greedy (text : String) (result : Except LookupError (Option ChangeId)) :
    (changeId text = result ↔ Decides (pattern.capture? text.toList) result) ∧
    (changeId text = result ↔ ∃ found, FirstUrl text found ∧ Decides found result) := by
  rw [changeId_eq_iff, capture?_pattern]
  refine ⟨Iff.rfl, ?_⟩
  constructor
  · intro h
    exact ⟨number? text, number?_eq_iff.mp rfl, h⟩
  · rintro ⟨found, hfound, h⟩
    rw [number?_eq_iff.mpr hfound]
    exact h

end PublicSuffix.ChangeUrl
