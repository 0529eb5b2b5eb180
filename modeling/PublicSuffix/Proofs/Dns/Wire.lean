import PublicSuffix.Domain.Name
import PublicSuffix.Text.Octets
import Mathlib.Data.List.Basic

/-!
# The wire format of messages

Numbers are written with the most significant octet first. A name is written label by label, each
behind its length, and ends in an empty label. A character string is written behind its length.

The data of a text record are character strings in full (`Holds`), or they end within one
(`Overruns`); unless there are none at all, there is no third way (`holds_or_overruns`).
-/

namespace PublicSuffix.Dns

variable {data text : List UInt8}

/-! ## Writing -/

/-- A number below 2^16 in two octets. -/
def writeWord (n : Nat) : List UInt8 := [UInt8.ofNat (n / 256), UInt8.ofNat n]

/-- Octets behind their number, of which there are at most 255. -/
def writeString (bs : List UInt8) : List UInt8 := UInt8.ofNat bs.length :: bs

/-- A name in full. -/
def writeName (n : Name) : List UInt8 :=
  n.labels.flatMap (fun l => writeString (Text.octets l.text)) ++ [0]

/-! ## Character strings -/

/-- The data hold a text, cut into character strings of up to 255 octets. -/
def Holds (text data : List UInt8) : Prop :=
  ∃ strings : List (List UInt8), strings ≠ [] ∧ (∀ s ∈ strings, s.length ≤ 255) ∧
    strings.flatten = text ∧ data = strings.flatMap writeString

/-- The data end within a character string: the last one announces more octets than follow. -/
def Overruns (data : List UInt8) : Prop :=
  ∃ (strings : List (List UInt8)) (n : UInt8) (short : List UInt8),
    (∀ s ∈ strings, s.length ≤ 255) ∧ short.length < n.toNat ∧
      data = strings.flatMap writeString ++ n :: short

theorem Holds.cons {string : List UInt8} (hlen : string.length ≤ 255) (h : Holds text data) :
    Holds (string ++ text) (writeString string ++ data) := by
  obtain ⟨strings, -, hstrings, rfl, rfl⟩ := h
  exact ⟨string :: strings, List.cons_ne_nil _ _, List.forall_mem_cons.mpr ⟨hlen, hstrings⟩, rfl,
    rfl⟩

theorem holds_writeString (h : text.length ≤ 255) : Holds text (writeString text) :=
  ⟨[text], List.cons_ne_nil _ _, List.forall_mem_singleton.mpr h, List.flatten_singleton, by simp⟩

theorem Overruns.cons {string : List UInt8} (hlen : string.length ≤ 255) (h : Overruns data) :
    Overruns (writeString string ++ data) := by
  obtain ⟨strings, n, short, hstrings, hshort, rfl⟩ := h
  exact ⟨string :: strings, n, short, List.forall_mem_cons.mpr ⟨hlen, hstrings⟩, hshort,
    (List.append_assoc _ _ _).symm⟩

/-- Data are what some text is cut into, or they end too early. -/
theorem holds_or_overruns : (data : List UInt8) →
    data = [] ∨ (∃ text, Holds text data) ∨ Overruns data
  | [] => .inl rfl
  | n :: bs => by
    rcases Nat.lt_or_ge bs.length n.toNat with hlt | hle
    · exact .inr (.inr ⟨[], n, bs, by simp, hlt, rfl⟩)
    · have hlength : (bs.take n.toNat).length = n.toNat := List.length_take_of_le hle
      have hstring : (bs.take n.toNat).length ≤ 255 := by
        rw [hlength]
        exact Nat.le_of_lt_succ n.toNat_lt
      have hdata : n :: bs = writeString (bs.take n.toNat) ++ bs.drop n.toNat := by
        rw [writeString, hlength, UInt8.ofNat_toNat, List.cons_append, List.take_append_drop]
      rw [hdata]
      rcases holds_or_overruns (bs.drop n.toNat) with hnil | ⟨text, htext⟩ | hover
      · rw [hnil, List.append_nil]
        exact .inr (.inl ⟨_, holds_writeString hstring⟩)
      · exact .inr (.inl ⟨_, htext.cons hstring⟩)
      · exact .inr (.inr (hover.cons hstring))
termination_by data => data.length
decreasing_by simp only [List.length_drop, List.length_cons]; omega

end PublicSuffix.Dns
