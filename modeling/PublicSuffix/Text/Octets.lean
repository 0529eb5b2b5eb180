/-!
# Text as octets

Texts travel as UTF-8. Reading goes through one scan that takes the characters of well-formed
sequences and marks every ill-formed part. An ill-formed part is as long as it can be while it is
still the beginning of some well-formed sequence, and at least one octet. Strict reading refuses
a text with a marked part, lenient reading puts the replacement character in its place.
-/

namespace PublicSuffix.Text

/-- The UTF-8 octets of a text. -/
def octets (s : String) : List UInt8 :=
  s.toList.flatMap String.utf8EncodeChar

/-- What the first octet of a sequence announces. -/
structure Lead where
  /-- The number of octets that follow. -/
  following : Nat
  /-- The least second octet. -/
  least : UInt8
  /-- The greatest second octet. -/
  greatest : UInt8
  /-- The bits of the code point that the first octet carries. -/
  bits : Nat

/-- The announcement of a first octet, if a sequence can begin with it. The bounds on the second
octet keep out overlong forms, surrogates and code points beyond U+10FFFF. -/
def lead? (b : UInt8) : Option Lead :=
  if b < 0x80 then some ⟨0, 0x80, 0xbf, b.toNat⟩
  else if b < 0xc2 then none
  else if b < 0xe0 then some ⟨1, 0x80, 0xbf, b.toNat - 0xc0⟩
  else if b = 0xe0 then some ⟨2, 0xa0, 0xbf, 0⟩
  else if b = 0xed then some ⟨2, 0x80, 0x9f, 0xd⟩
  else if b < 0xf0 then some ⟨2, 0x80, 0xbf, b.toNat - 0xe0⟩
  else if b = 0xf0 then some ⟨3, 0x90, 0xbf, 0⟩
  else if b < 0xf4 then some ⟨3, 0x80, 0xbf, b.toNat - 0xf0⟩
  else if b = 0xf4 then some ⟨3, 0x80, 0x8f, 4⟩
  else none

/-- Reads `n` more octets of a sequence whose bits so far are `bits`, the next one between `least`
and `greatest`. The result is the code point, or `none` where the sequence breaks off, with the
octets not used. -/
def readFollowing : Nat → UInt8 → UInt8 → Nat → List UInt8 → Option Nat × List UInt8
  | 0, _, _, bits, bs => (some bits, bs)
  | _ + 1, _, _, _, [] => (none, [])
  | n + 1, least, greatest, bits, b :: bs =>
    if least ≤ b ∧ b ≤ greatest then
      readFollowing n 0x80 0xbf (bits * 64 + (b.toNat - 0x80)) bs
    else (none, b :: bs)

theorem length_readFollowing_le (n : Nat) (least greatest : UInt8) (bits : Nat)
    (bs : List UInt8) : (readFollowing n least greatest bits bs).2.length ≤ bs.length := by
  induction n generalizing least greatest bits bs with
  | zero => simp [readFollowing]
  | succ n ih =>
    cases bs with
    | nil => simp [readFollowing]
    | cons b bs =>
      simp only [readFollowing]
      split
      · exact Nat.le_succ_of_le (ih ..)
      · simp

/-- Reads one character, or one ill-formed part, from octets that begin with `b`. -/
def readChar (b : UInt8) (bs : List UInt8) : Option Char × List UInt8 :=
  match lead? b with
  | none => (none, bs)
  | some l =>
    let (code, rest) := readFollowing l.following l.least l.greatest l.bits bs
    (code.map Char.ofNat, rest)

theorem length_readChar_le (b : UInt8) (bs : List UInt8) :
    (readChar b bs).2.length ≤ bs.length := by
  unfold readChar
  split
  · simp
  · exact length_readFollowing_le ..

/-- The characters of a sequence of octets, with `none` for each ill-formed part. -/
def scanOctets : List UInt8 → List (Option Char)
  | [] => []
  | b :: bs => (readChar b bs).1 :: scanOctets (readChar b bs).2
termination_by bs => bs.length
decreasing_by exact Nat.lt_succ_of_le (length_readChar_le b bs)

/-- The text that the octets encode, if all of them are well formed. -/
def decode? (bs : List UInt8) : Option String :=
  ((scanOctets bs).mapM id).map String.ofList

/-- The text that the octets encode, with U+FFFD for each ill-formed part. -/
def decodeLossy (bs : List UInt8) : String :=
  String.ofList ((scanOctets bs).map (·.getD '\ufffd'))

example : octets "aé😀" = [0x61, 0xc3, 0xa9, 0xf0, 0x9f, 0x98, 0x80] := by decide
example : decode? [0x61, 0xc3, 0xa9] = some "aé" := by cbv

/-- A surrogate is three ill-formed parts, a sequence cut short is one. -/
example : scanOctets [0xed, 0xa0, 0x80, 0xe2, 0x82] = [none, none, none, none] := by cbv

end PublicSuffix.Text
