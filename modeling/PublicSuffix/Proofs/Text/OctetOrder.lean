import PublicSuffix.Text.Octets
import Mathlib.Algebra.Group.Nat.Defs
import Mathlib.Data.List.Basic

/-!
# The order of octets is the order of characters

Texts are compared octet by octet, and this comes to the same as comparing them character by
character (`compare_octets`). The first octet of a character grows with the character and tells how
many octets follow, so that two characters with the same first octet are as long. What follows are
the digits of the character to the base 64, the highest first.
-/

namespace PublicSuffix.Text

variable {v w : Nat} {xs ys : List UInt8}

/-! ## The octets of a character -/

/-- The number of octets after the first one. -/
def followingCount (v : Nat) : Nat :=
  if v < 0x80 then 0 else if v < 0x800 then 1 else if v < 0x10000 then 2 else 3

/-- The first octet. -/
def leading (v : Nat) : Nat :=
  if v < 0x80 then v
  else if v < 0x800 then v / 64 + 192
  else if v < 0x10000 then v / 4096 + 224
  else v / 262144 + 240

/-- The last `n` octets: as many digits to the base 64. -/
def following : Nat → Nat → List UInt8
  | 0, _ => []
  | n + 1, v => UInt8.ofNat (v / 64 ^ n % 64 + 128) :: following n v

theorem toNat_lt (c : Char) : c.toNat < 0x110000 := by
  rcases c.valid with h | h
  · exact Nat.lt_trans h (by decide)
  · exact h.2

theorem utf8EncodeChar_eq (c : Char) : String.utf8EncodeChar c =
    UInt8.ofNat (leading c.toNat) :: following (followingCount c.toNat) c.toNat := by
  have hvalid := toNat_lt c
  rw [String.utf8EncodeChar.eq_1, show c.val.toNat = c.toNat from rfl]
  generalize c.toNat = v at hvalid
  unfold leading followingCount
  split
  · rw [if_pos (by omega), if_pos (by omega)]
    rfl
  split
  · rw [if_neg (by omega), if_pos (by omega), if_neg (by omega), if_pos (by omega),
      Nat.mod_eq_of_lt (by omega)]
    simp [following]
  split
  · rw [if_neg (by omega), if_neg (by omega), if_pos (by omega), if_neg (by omega),
      if_neg (by omega), if_pos (by omega), Nat.mod_eq_of_lt (by omega)]
    simp [following]
  · rw [if_neg (by omega), if_neg (by omega), if_neg (by omega), if_neg (by omega),
      if_neg (by omega), if_neg (by omega), Nat.mod_eq_of_lt (by omega)]
    simp [following]

/-! ## The greater of two characters -/

theorem leading_lt (c : Char) : leading c.toNat < 256 := by
  have hvalid := toNat_lt c
  unfold leading
  split_ifs <;> omega

theorem leading_le (h : v < w) : leading v ≤ leading w := by
  unfold leading
  split_ifs <;> omega

theorem digits_lt_of_leading_eq (h : v < w) (heq : leading v = leading w) :
    followingCount v = followingCount w ∧
      v % 64 ^ followingCount v < w % 64 ^ followingCount w := by
  unfold leading at heq
  unfold followingCount
  split_ifs at heq ⊢ <;> simp only [Nat.reducePow, true_and, Nat.pow_zero] <;> omega

/-! ## Texts -/

theorem compare_cons_of_lt {a b : UInt8} (h : a.toNat < b.toNat) :
    compare (a :: xs) (b :: ys) = .lt := by
  have hab : compare a b = .lt := Std.compare_eq_lt.mpr (UInt8.lt_iff_toNat_lt.mpr h)
  rw [List.compare_cons_cons, hab]
  rfl

theorem compare_append_left (zs xs ys : List UInt8) :
    compare (zs ++ xs) (zs ++ ys) = compare xs ys := by
  induction zs with
  | nil => rfl
  | cons z zs ih =>
    have hz : compare z z = .eq := Std.ReflCmp.compare_self
    rw [List.cons_append, List.cons_append, List.compare_cons_cons, hz, ih]
    rfl

theorem compare_following {n : Nat} (h : v % 64 ^ n < w % 64 ^ n) :
    compare (following n v ++ xs) (following n w ++ ys) = .lt := by
  induction n with
  | zero =>
    rw [Nat.pow_zero, Nat.mod_one, Nat.mod_one] at h
    exact absurd h (Nat.lt_irrefl 0)
  | succ n ih =>
    have hv := Nat.mod_pow_succ (b := 64) (k := n) (x := v)
    have hw := Nat.mod_pow_succ (b := 64) (k := n) (x := w)
    have hpos : 0 < 64 ^ n := Nat.pow_pos (by decide)
    have hvlow := Nat.mod_lt v hpos
    have hwlow := Nat.mod_lt w hpos
    have hvdigit : v / 64 ^ n % 64 < 64 := Nat.mod_lt _ (by decide)
    have hwdigit : w / 64 ^ n % 64 < 64 := Nat.mod_lt _ (by decide)
    rw [hv, hw] at h
    generalize hx : v / 64 ^ n % 64 = x at *
    generalize hy : w / 64 ^ n % 64 = y at *
    rw [following, following, hx, hy, List.cons_append, List.cons_append]
    rcases Nat.lt_trichotomy x y with hlt | rfl | hgt
    · apply compare_cons_of_lt
      rw [UInt8.toNat_ofNat', UInt8.toNat_ofNat']
      omega
    · have hsame : compare (UInt8.ofNat (x + 128)) (UInt8.ofNat (x + 128)) = .eq :=
        Std.ReflCmp.compare_self
      rw [List.compare_cons_cons, hsame]
      exact ih (by omega)
    · have hle : 64 ^ n * (y + 1) ≤ 64 ^ n * x := Nat.mul_le_mul_left _ hgt
      rw [Nat.mul_succ] at hle
      omega

theorem compare_utf8EncodeChar_of_lt {c d : Char} (h : c.toNat < d.toNat) :
    compare (String.utf8EncodeChar c ++ xs) (String.utf8EncodeChar d ++ ys) = .lt := by
  have hc : leading c.toNat < 256 := leading_lt c
  have hd : leading d.toNat < 256 := leading_lt d
  rw [utf8EncodeChar_eq, utf8EncodeChar_eq, List.cons_append, List.cons_append]
  rcases Nat.lt_or_eq_of_le (leading_le h) with hlt | heq
  · apply compare_cons_of_lt
    rw [UInt8.toNat_ofNat', UInt8.toNat_ofNat']
    omega
  · obtain ⟨hcount, hdigits⟩ := digits_lt_of_leading_eq h heq
    have hsame : compare (UInt8.ofNat (leading d.toNat)) (UInt8.ofNat (leading d.toNat)) = .eq :=
      Std.ReflCmp.compare_self
    rw [List.compare_cons_cons, heq, hsame]
    rw [hcount] at hdigits ⊢
    exact compare_following hdigits

theorem compare_flatMap_utf8EncodeChar (cs ds : List Char) :
    compare (cs.flatMap String.utf8EncodeChar) (ds.flatMap String.utf8EncodeChar) =
      compare (cs.map Char.toNat) (ds.map Char.toNat) := by
  induction cs generalizing ds with
  | nil =>
    cases ds with
    | nil => rfl
    | cons d ds =>
      rw [List.flatMap_cons, utf8EncodeChar_eq]
      rfl
  | cons c cs ih =>
    cases ds with
    | nil =>
      rw [List.flatMap_cons, utf8EncodeChar_eq]
      rfl
    | cons d ds =>
      rw [List.flatMap_cons, List.flatMap_cons, List.map_cons, List.map_cons,
        List.compare_cons_cons (x := c.toNat)]
      rcases Nat.lt_trichotomy c.toNat d.toNat with hlt | heq | hgt
      · rw [compare_utf8EncodeChar_of_lt hlt, Nat.compare_eq_lt.mpr hlt]
        rfl
      · obtain rfl : c = d := Char.toNat_inj.mp heq
        rw [compare_append_left, ih, Nat.compare_eq_eq.mpr rfl]
        rfl
      · rw [Std.OrientedCmp.gt_of_lt (compare_utf8EncodeChar_of_lt hgt),
          Nat.compare_eq_gt.mpr hgt]
        rfl

/-- **Octets compare as characters do.** -/
theorem compare_octets (s t : String) :
    compare (octets s) (octets t) =
      compare (s.toList.map Char.toNat) (t.toList.map Char.toNat) :=
  compare_flatMap_utf8EncodeChar s.toList t.toList

end PublicSuffix.Text
