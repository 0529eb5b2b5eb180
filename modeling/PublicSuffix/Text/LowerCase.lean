/-!
# Lower case and length

Only ASCII letters have a lower case here. Going to lower case changes neither the number of
characters nor the number of octets of a text.
-/

namespace PublicSuffix.Text

theorem toLower_of_not_isUpper {c : Char} (h : c.isUpper = false) : c.toLower = c :=
  dif_neg (of_decide_eq_false h)

/-- The lower-case form of a capital lies 32 places further on. -/
theorem toNat_toLower_of_isUpper {c : Char} (h : c.isUpper = true) :
    0x41 ≤ c.toNat ∧ c.toNat ≤ 0x5a ∧ c.toLower.toNat = c.toNat + 32 := by
  have h' : c.val ≥ 'A'.val ∧ c.val ≤ 'Z'.val := of_decide_eq_true h
  have h₁ : 0x41 ≤ c.val.toNat := UInt32.le_iff_toNat_le.mp h'.1
  have h₂ : c.val.toNat ≤ 0x5a := UInt32.le_iff_toNat_le.mp h'.2
  have e : c.toLower.val = c.val + 32 := congrArg Char.val (dif_pos h')
  refine ⟨h₁, h₂, ?_⟩
  change c.toLower.val.toNat = c.val.toNat + 32
  rw [e, UInt32.toNat_add]
  simp only [UInt32.reduceToNat]
  omega

/-- Lower case does not change the length in octets. -/
theorem utf8Size_toLower (c : Char) : c.toLower.utf8Size = c.utf8Size := by
  cases h : c.isUpper with
  | false => rw [toLower_of_not_isUpper h]
  | true =>
    obtain ⟨h₁, h₂, h₃⟩ := toNat_toLower_of_isUpper h
    have small : ∀ d : Char, d.toNat < 0x80 → d.utf8Size = 1 := fun d hd => by
      have : d.val ≤ 0x7f := UInt32.le_iff_toNat_le.mpr (Nat.le_of_lt_succ hd)
      simp [Char.utf8Size, this]
    rw [small _ (by omega), small _ (by omega)]

/-- The length in octets of the text that characters make up. -/
def charsSize : List Char → Nat
  | [] => 0
  | c :: cs => c.utf8Size + charsSize cs

theorem utf8ByteSize_ofList (cs : List Char) :
    (String.ofList cs).utf8ByteSize = charsSize cs := by
  induction cs with
  | nil => rfl
  | cons c cs ih =>
    rw [String.ofList_cons, String.utf8ByteSize_append, String.utf8ByteSize_singleton, ih,
      charsSize]

/-- The length of a text in octets, character by character. -/
theorem utf8ByteSize_eq_charsSize (s : String) : s.utf8ByteSize = charsSize s.toList := by
  rw [← utf8ByteSize_ofList, String.ofList_toList]

theorem charsSize_map_toLower (cs : List Char) :
    charsSize (cs.map Char.toLower) = charsSize cs := by
  induction cs with
  | nil => rfl
  | cons c cs ih => rw [List.map_cons, charsSize, charsSize, utf8Size_toLower, ih]

theorem toList_toLower (s : String) : s.toLower.toList = s.toList.map Char.toLower :=
  String.toList_map

theorem utf8ByteSize_toLower (s : String) : s.toLower.utf8ByteSize = s.utf8ByteSize := by
  rw [utf8ByteSize_eq_charsSize, utf8ByteSize_eq_charsSize, toList_toLower, charsSize_map_toLower]

end PublicSuffix.Text
