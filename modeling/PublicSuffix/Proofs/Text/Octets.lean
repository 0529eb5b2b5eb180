import PublicSuffix.Text.LowerCase
import PublicSuffix.Text.Octets
import Mathlib.Tactic.IntervalCases

/-!
# Texts are read back from their octets

Strict and lenient reading give back what was written (`decode?_octets`, `decodeLossy_octets`).
Both go through `scanOctets`, which takes the octets of a character off the front as one part
(`scanOctets_encode`). The first octet of a character announces a range for the second one; that
the second one is in it says that the character is neither overlong, nor a surrogate, nor too large.
-/

namespace PublicSuffix.Text

variable {v : Nat} {bs : List UInt8}

/-! ## First octets -/

theorem lead?_one (h : v < 0x80) : lead? (UInt8.ofNat v) = some ⟨0, 0x80, 0xbf, v⟩ := by
  have hv : (UInt8.ofNat v).toNat = v := UInt8.toNat_ofNat_of_lt' (Nat.lt_trans h (by decide))
  rw [lead?, if_pos (UInt8.lt_iff_toNat_lt.mpr (by rwa [hv])), hv]

theorem lead?_two (hlow : 2 ≤ v) (hhigh : v < 32) :
    lead? (UInt8.ofNat (v + 192)) = some ⟨1, 0x80, 0xbf, v⟩ := by
  interval_cases v <;> rfl

theorem lead?_three (h : v < 16) : lead? (UInt8.ofNat (v + 224)) =
    some ⟨2, if v = 0 then 0xa0 else 0x80, if v = 13 then 0x9f else 0xbf, v⟩ := by
  interval_cases v <;> rfl

theorem lead?_four (h : v ≤ 4) : lead? (UInt8.ofNat (v + 240)) =
    some ⟨3, if v = 0 then 0x90 else 0x80, if v = 4 then 0x8f else 0xbf, v⟩ := by
  interval_cases v <;> rfl

/-! ## Characters -/

theorem readFollowing_cons {n bits : Nat} {least greatest : UInt8} (hv : v < 64)
    (hleast : least.toNat ≤ v + 128) (hgreatest : v + 128 ≤ greatest.toNat) :
    readFollowing (n + 1) least greatest bits (UInt8.ofNat (v + 128) :: bs) =
      readFollowing n 0x80 0xbf (bits * 64 + v) bs := by
  have hoctet : (UInt8.ofNat (v + 128)).toNat = v + 128 :=
    UInt8.toNat_ofNat_of_lt' (by rw [show UInt8.size = 256 from rfl]; omega)
  rw [readFollowing, if_pos, hoctet, Nat.add_sub_cancel]
  simp only [UInt8.le_iff_toNat_le, hoctet]
  exact ⟨hleast, hgreatest⟩

/-- An octet of a character that is neither the first nor the second. -/
theorem readFollowing_later {n bits : Nat} (hv : v < 64) :
    readFollowing (n + 1) 0x80 0xbf bits (UInt8.ofNat (v + 128) :: bs) =
      readFollowing n 0x80 0xbf (bits * 64 + v) bs := by
  refine readFollowing_cons hv (Nat.le_add_left 128 v) ?_
  change v + 128 ≤ 191
  omega

theorem scanOctets_cons {b : UInt8} {l : Lead} {following : List UInt8} {c : Char}
    (hlead : lead? b = some l)
    (hcode : readFollowing l.following l.least l.greatest l.bits (following ++ bs) =
      (some c.toNat, bs)) :
    scanOctets (b :: following ++ bs) = some c :: scanOctets bs := by
  rw [List.cons_append, scanOctets]
  simp only [readChar, hlead, hcode, Option.map_some, Char.ofNat_toNat]

theorem scanOctets_encode (c : Char) :
    scanOctets (String.utf8EncodeChar c ++ bs) = some c :: scanOctets bs := by
  have hvalid : c.toNat < 0xd800 ∨ 0xdfff < c.toNat ∧ c.toNat < 0x110000 := c.valid
  rw [String.utf8EncodeChar.eq_1, show c.val.toNat = c.toNat from rfl]
  split
  · exact scanOctets_cons (lead?_one (by omega)) rfl
  split
  · refine scanOctets_cons (lead?_two (by omega) (by omega)) ?_
    have hcode : c.toNat / 64 % 32 * 64 + c.toNat % 64 = c.toNat := by omega
    rw [List.cons_append, readFollowing_later (by omega), hcode]
    rfl
  split
  · -- Three octets: surrogates are left out by the second one, and so are the overlong forms.
    refine scanOctets_cons (lead?_three (by omega)) ?_
    have hcode : (c.toNat / 4096 % 16 * 64 + c.toNat / 64 % 64) * 64 + c.toNat % 64 = c.toNat := by
      omega
    rw [List.cons_append, List.cons_append, readFollowing_cons (by omega),
      readFollowing_later (by omega), hcode]
    · rfl
    · dsimp only
      split <;> simp only [UInt8.reduceToNat] <;> omega
    · dsimp only
      split <;> simp only [UInt8.reduceToNat] <;> omega
  · -- Four octets: what is too large takes the place of the surrogates.
    refine scanOctets_cons (lead?_four (by omega)) ?_
    have hcode : ((c.toNat / 262144 % 8 * 64 + c.toNat / 4096 % 64) * 64 + c.toNat / 64 % 64) * 64 +
        c.toNat % 64 = c.toNat := by
      omega
    rw [List.cons_append, List.cons_append, List.cons_append, readFollowing_cons (by omega),
      readFollowing_later (by omega), readFollowing_later (by omega), hcode]
    · rfl
    · dsimp only
      split <;> simp only [UInt8.reduceToNat] <;> omega
    · dsimp only
      split <;> simp only [UInt8.reduceToNat] <;> omega

/-! ## Texts -/

theorem length_octets (s : String) : (octets s).length = s.utf8ByteSize := by
  rw [octets, utf8ByteSize_eq_charsSize]
  induction s.toList with
  | nil => rfl
  | cons c cs ih =>
    rw [List.flatMap_cons, List.length_append, String.length_utf8EncodeChar, ih, charsSize]

theorem scanOctets_octets (s : String) : scanOctets (octets s) = s.toList.map some := by
  rw [octets]
  induction s.toList with
  | nil => rw [List.flatMap_nil, scanOctets, List.map_nil]
  | cons c cs ih => rw [List.flatMap_cons, scanOctets_encode, ih, List.map_cons]

/-- **A text is read back from its octets.** -/
theorem decode?_octets (s : String) : decode? (octets s) = some s := by
  have hall : (s.toList.map some).mapM id = some s.toList := by
    rw [List.mapM_map]
    exact List.mapM_pure.trans (congrArg some (List.map_id s.toList))
  rw [decode?, scanOctets_octets, hall, Option.map_some, String.ofList_toList]

/-- Lenient reading agrees. -/
theorem decodeLossy_octets (s : String) : decodeLossy (octets s) = s := by
  have hall : (s.toList.map some).map (·.getD '\ufffd') = s.toList := by
    rw [List.map_map]
    exact List.map_id s.toList
  rw [decodeLossy, scanOctets_octets, hall, String.ofList_toList]

end PublicSuffix.Text
