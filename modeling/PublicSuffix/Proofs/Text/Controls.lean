import PublicSuffix.Text.Quoted

/-!
# Control characters

What is put into a message must not break it: no ASCII control character may come with it. Numbers
and quoted texts hold none, whatever was quoted (`clean_quoted`), since a character is shown as
itself only if it is visible and an escape is written with digits and a few marks.
-/

namespace PublicSuffix.Text

/-- Whether `c` is an ASCII control character. -/
def isControl (c : Char) : Bool := c.toNat < 0x20 || c.toNat == 0x7f

/-- Whether a text has no control character. -/
def Clean (s : String) : Prop := ∀ c ∈ s.toList, isControl c = false

variable {s t : String} {c : Char} {cs : List Char}

theorem isControl_eq_false_iff : isControl c = false ↔ 0x20 ≤ c.toNat ∧ c.toNat ≠ 0x7f := by
  simp [isControl]

theorem clean_append : Clean (s ++ t) ↔ Clean s ∧ Clean t := by
  simp [Clean, or_imp, forall_and]

theorem clean_ofList : Clean (String.ofList cs) ↔ ∀ c ∈ cs, isControl c = false := by
  simp [Clean]

/-- Texts that are written out are looked through. -/
theorem clean_of_any (h : cs.any isControl = false) : Clean (String.ofList cs) := by
  rw [clean_ofList]
  simpa using h

/-! ## Numbers -/

theorem exists_digit_of_mem_toDigits {b n : Nat} (hb : 1 < b) (h : c ∈ Nat.toDigits b n) :
    ∃ d < b, c = d.digitChar := by
  induction n using Nat.strongRecOn with
  | ind n ih =>
    rw [Nat.toDigits_eq_if hb] at h
    split at h
    · next hn =>
      exact ⟨n, hn, List.mem_singleton.mp h⟩
    · next hn =>
      rcases List.mem_append.mp h with hfirst | hlast
      · exact ih (n / b) (Nat.div_lt_self (by omega) hb) hfirst
      · exact ⟨n % b, Nat.mod_lt n (by omega), List.mem_singleton.mp hlast⟩

theorem isControl_digitChar : ∀ d < 16, isControl d.digitChar = false := by decide

theorem isControl_of_mem_toDigits {b n : Nat} (hb : 1 < b) (hle : b ≤ 16)
    (h : c ∈ Nat.toDigits b n) : isControl c = false := by
  obtain ⟨d, hd, rfl⟩ := exists_digit_of_mem_toDigits hb h
  exact isControl_digitChar d (Nat.lt_of_lt_of_le hd hle)

theorem clean_toString (n : Nat) : Clean (toString n) := by
  rw [Nat.toString_eq_ofList_toDigits, clean_ofList]
  intro c hc
  exact isControl_of_mem_toDigits (by decide) (by decide) hc

/-! ## Quoted text -/

/-- Beyond ASCII there are no control characters of ASCII, be they shown or not. -/
theorem isControl_of_isShown (h : isShown c = true) : isControl c = false := by
  rw [isControl_eq_false_iff]
  by_cases hascii : c.toNat < 0x80
  · rw [isShown_of_ascii hascii] at h
    simpa using h
  · omega

theorem isControl_of_mem_codePointEscape {d : Char} (h : d ∈ codePointEscape c) :
    isControl d = false := by
  simp only [codePointEscape, List.mem_cons, List.mem_append, List.not_mem_nil, or_false] at h
  rcases h with rfl | rfl | rfl | hdigit | rfl
  · rfl
  · rfl
  · rfl
  · exact isControl_of_mem_toDigits (by decide) (by decide) hdigit
  · rfl

theorem isControl_of_mem_escaped {quote : Char} (hquote : isControl quote = false) :
    ∀ d ∈ escaped quote c, isControl d = false := by
  unfold escaped
  split
  · simp [isControl]
  split
  · simp [isControl]
  split
  · simp [isControl]
  split
  · simp [isControl]
  split
  · next hmark =>
    have hc : isControl c = false := by
      rcases hmark with rfl | rfl
      · rfl
      · exact hquote
    exact List.forall_mem_cons.mpr ⟨rfl, List.forall_mem_singleton.mpr hc⟩
  split
  · next hshown =>
    simpa using isControl_of_isShown hshown
  · intro d hd
    exact isControl_of_mem_codePointEscape hd

theorem clean_enclosed {quote : Char} (hquote : isControl quote = false)
    (h : ∀ c ∈ cs, isControl c = false) : Clean (String.ofList (quote :: (cs ++ [quote]))) := by
  rw [clean_ofList, List.forall_mem_cons, List.forall_mem_append]
  exact ⟨hquote, h, List.forall_mem_singleton.mpr hquote⟩

theorem clean_quoted (s : String) : Clean (quoted s) := by
  apply clean_enclosed rfl
  intro d hd
  obtain ⟨c, -, hd⟩ := List.mem_flatMap.mp hd
  exact isControl_of_mem_escaped rfl d hd

theorem clean_quotedChar (c : Char) : Clean (quotedChar c) :=
  clean_enclosed rfl (isControl_of_mem_escaped rfl)

end PublicSuffix.Text
