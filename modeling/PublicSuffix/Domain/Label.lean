import PublicSuffix.Domain.NameError
import PublicSuffix.Text.LowerCase
import PublicSuffix.Text.Octets

/-!
# Labels of domain names

A label is one part of a domain name. It is kept in canonical form, with the ASCII letters in
lower case; characters beyond ASCII stand as they are given. Its length is counted in UTF-8
octets.

`Label.ofText` is the only way to a label from outside, and its order of refusals is part of its
meaning: an empty text first, then one that is too long, then the first character out of place.
-/

namespace PublicSuffix

/-- The greatest length of a label in octets. -/
def Label.maxSize : Nat := 63

/-- Whether a label may be written with `c`: ASCII letters and digits, the hyphen, the underscore
and all characters beyond ASCII. -/
def Label.isAllowed (c : Char) : Bool :=
  c.isAlphanum || c == '-' || c == '_' || 0x80 ≤ c.toNat

/-- Whether `c` occurs in canonical labels: it is allowed and no upper-case ASCII letter. -/
def Label.isCanonical (c : Char) : Bool :=
  Label.isAllowed c && !c.isUpper

/-- A label in canonical form. -/
structure Label where
  /-- The characters of the label. -/
  text : String
  nonempty : text ≠ ""
  size_le : text.utf8ByteSize ≤ Label.maxSize
  canonical : ∀ c ∈ text.toList, Label.isCanonical c = true
  deriving DecidableEq

/-! ## Labels from texts -/

/-- An allowed character is canonical in lower case. -/
theorem isCanonical_toLower {c : Char} (h : Label.isAllowed c = true) :
    Label.isCanonical c.toLower = true := by
  cases hu : c.isUpper with
  | false => rw [Text.toLower_of_not_isUpper hu]; simp [Label.isCanonical, h, hu]
  | true =>
    obtain ⟨h₁, h₂, h₃⟩ := Text.toNat_toLower_of_isUpper hu
    have hl : c.toLower.isLower = true := (Bool.and_eq_true _ _).mpr
      ⟨decide_eq_true (UInt32.le_iff_toNat_le.mpr (show 0x61 ≤ c.toLower.toNat by omega)),
        decide_eq_true (UInt32.le_iff_toNat_le.mpr (show c.toLower.toNat ≤ 0x7a by omega))⟩
    have hn : c.toLower.isUpper = false := decide_eq_false fun hz => by
      have : c.toLower.toNat ≤ 0x5a := UInt32.le_iff_toNat_le.mp hz.2
      omega
    have ha : c.toLower.isAlphanum = true := by
      change (c.toLower.isUpper || c.toLower.isLower || c.toLower.isDigit) = true
      simp [hl]
    simp [Label.isCanonical, Label.isAllowed, ha, hn]

/-- The label that a text writes. -/
def Label.ofText (s : String) : Except NameError Label :=
  if hne : s = "" then .error .emptyLabel
  else if hsize : Label.maxSize < s.utf8ByteSize then .error .longLabel
  else
    match hfind : s.toList.find? fun c => !Label.isAllowed c with
    | some c => .error (.disallowedChar c)
    | none => .ok {
        text := s.toLower
        nonempty := fun h => hne (by
          have : s.toLower.toList = [] := by rw [h]; rfl
          rw [Text.toList_toLower, List.map_eq_nil_iff] at this
          exact String.toList_eq_nil_iff.mp this)
        size_le := by rw [Text.utf8ByteSize_toLower]; omega
        canonical := by
          intro c hc
          rw [Text.toList_toLower] at hc
          obtain ⟨d, hd, rfl⟩ := List.mem_map.mp hc
          exact isCanonical_toLower (by simpa using List.find?_eq_none.mp hfind d hd) }

/-- The length of a label in octets. -/
def Label.size (l : Label) : Nat := l.text.utf8ByteSize

/-- Labels are compared octet by octet, a proper beginning first. -/
instance : Ord Label where
  compare a b := compare (Text.octets a.text) (Text.octets b.text)

/-- A label is determined by its text. -/
theorem Label.ext_text {a b : Label} (h : a.text = b.text) : a = b := by
  cases a; cases b; cases h; rfl

end PublicSuffix
