import PublicSuffix.Proofs.Dns.Wire
import PublicSuffix.Document.Decode
import PublicSuffix.Proofs.Domain.Children
import PublicSuffix.Proofs.Text.Octets

/-!
# What names there are

A name is made from a text, from labels, from stored data, or by putting a label in front of one
that is there. `made_lawful`: whatever is made so, in however many steps, has lawful labels, of
which there are at most 127, and a text of the length that is counted for it. All lawful labels
make a name, in each of these ways.

The bound on the number of labels comes from both limits. A label has an octet at least, and so has
every dot between two of them (`length_labels_le`).
-/

namespace PublicSuffix

/-! ## Lawful labels -/

/-- The texts of labels, told without a reading. -/
structure Label.Lawful (t : String) : Prop where
  size_pos : 0 < t.utf8ByteSize
  size_le : t.utf8ByteSize ≤ 63
  letters : ∀ c ∈ t.toList,
    c.isLower = true ∨ c.isDigit = true ∨ c = '-' ∨ c = '_' ∨ 0x80 ≤ c.toNat

namespace Label

theorem isUpper_eq_false {c : Char} (h : c.toNat < 0x41 ∨ 0x5a < c.toNat) : c.isUpper = false := by
  rw [← Bool.not_eq_true]
  intro hupper
  obtain ⟨hmin, hmax, -⟩ := Text.toNat_toLower_of_isUpper hupper
  omega

theorem isCanonical_iff {c : Char} : isCanonical c = true ↔
    c.isLower = true ∨ c.isDigit = true ∨ c = '-' ∨ c = '_' ∨ 0x80 ≤ c.toNat := by
  have hclasses : isCanonical c = true ↔ c.isUpper = false ∧
      (c.isLower = true ∨ c.isDigit = true ∨ c = '-' ∨ c = '_' ∨ 0x80 ≤ c.toNat) := by
    have halphanum : c.isAlphanum = (c.isUpper || c.isLower || c.isDigit) := rfl
    cases hupper : c.isUpper with
    | true => simp [isCanonical, hupper]
    | false => simp [isCanonical, isAllowed, halphanum, hupper, or_assoc]
  rw [hclasses, and_iff_right_iff_imp]
  intro h
  apply isUpper_eq_false
  rcases h with hlower | hdigit | rfl | rfl | hnonascii
  · right
    have hmin : 0x61 ≤ c.toNat :=
      UInt32.le_iff_toNat_le.mp (of_decide_eq_true ((Bool.and_eq_true _ _).mp hlower).1)
    omega
  · left
    have hmax : c.toNat ≤ 0x39 :=
      UInt32.le_iff_toNat_le.mp (of_decide_eq_true ((Bool.and_eq_true _ _).mp hdigit).2)
    omega
  · decide
  · decide
  · right
    omega

theorem lawful_text (l : Label) : Lawful l.text where
  size_pos := by
    apply Nat.pos_of_ne_zero
    simpa using l.nonempty
  size_le := l.size_le
  letters c hc := isCanonical_iff.mp (l.canonical c hc)

/-- A lawful text is the text of a label. -/
theorem Lawful.exists_label {t : String} (h : Lawful t) : ∃ l : Label, l.text = t := by
  refine ⟨⟨t, ?_, h.size_le, fun c hc => isCanonical_iff.mpr (h.letters c hc)⟩, rfl⟩
  rintro rfl
  exact absurd h.size_pos (by decide)

end Label

namespace Name

/-- The texts that the labels of a name can have, told without a reading. -/
structure Lawful (texts : List String) : Prop where
  nonempty : texts ≠ []
  labels : ∀ t ∈ texts, Label.Lawful t
  size_le : (".".intercalate texts).utf8ByteSize ≤ 253

variable {n : Name} {texts : List String}

theorem lawful_labels (n : Name) : Lawful (n.labels.map Label.text) where
  nonempty := by simpa using n.nonempty
  labels := by
    intro t ht
    obtain ⟨l, -, rfl⟩ := List.mem_map.mp ht
    exact l.lawful_text
  size_le := n.utf8ByteSize_text_le

/-- Lawful texts are the texts of a name's labels. -/
theorem Lawful.exists_name (h : Lawful texts) : ∃ n : Name, n.labels.map Label.text = texts := by
  obtain ⟨ls, rfl⟩ : ∃ ls : List Label, ls.map Label.text = texts := by
    have hlabels := h.labels
    clear h
    induction texts with
    | nil => exact ⟨[], rfl⟩
    | cons t texts ih =>
      obtain ⟨ht, htexts⟩ := List.forall_mem_cons.mp hlabels
      obtain ⟨l, rfl⟩ := ht.exists_label
      obtain ⟨ls, rfl⟩ := ih htexts
      exact ⟨l :: ls, rfl⟩
  refine ⟨⟨ls, by simpa using h.nonempty, ?_⟩, rfl⟩
  rw [← utf8ByteSize_intercalate]
  exact h.size_le

/-! ## Lengths -/

/-- The length of a text is that of its labels, and a dot for each but the first. -/
theorem textSize_eq_sum (ls : List Label) :
    textSize ls = (ls.map Label.size).sum + (ls.length - 1) := by
  induction ls with
  | nil => rfl
  | cons l ls ih =>
    by_cases h : ls = []
    · subst h
      simp [textSize]
    · have hpos : 0 < ls.length := List.length_pos_of_ne_nil h
      rw [textSize_cons l h, ih, List.map_cons, List.sum_cons, List.length_cons]
      omega

theorem length_le_sum_size (ls : List Label) : ls.length ≤ (ls.map Label.size).sum := by
  induction ls with
  | nil => simp
  | cons l ls ih =>
    have hpos : 0 < l.size := l.lawful_text.size_pos
    rw [List.map_cons, List.sum_cons, List.length_cons]
    omega

theorem length_labels_le (n : Name) : n.labels.length ≤ 127 := by
  have hsize : textSize n.labels ≤ 253 := n.size_le
  have hlabels := length_le_sum_size n.labels
  rw [textSize_eq_sum] at hsize
  omega

/-- On the wire a label has its length in front instead of a dot behind, and the root is added. -/
theorem length_writeName (n : Name) : (Dns.writeName n).length = textSize n.labels + 2 := by
  have hlabels : ∀ ls : List Label,
      (ls.flatMap fun l => Dns.writeString (Text.octets l.text)).length =
        (ls.map Label.size).sum + ls.length := by
    intro ls
    induction ls with
    | nil => rfl
    | cons l ls ih =>
      have hlabel : (Text.octets l.text).length = l.size := Text.length_octets l.text
      rw [List.flatMap_cons, List.length_append, ih, Dns.writeString, List.length_cons, hlabel,
        List.map_cons, List.sum_cons, List.length_cons]
      omega
  have hpos : 0 < n.labels.length := List.length_pos_of_ne_nil n.nonempty
  rw [Dns.writeName, List.length_append, hlabels, textSize_eq_sum, List.length_singleton]
  omega

/-! ## Making names -/

/-- An attempt to make a name. -/
inductive Attempt where
  /-- Read a text. -/
  | text (s : String)
  /-- Read the labels one by one and put them together. -/
  | labels (texts : List String)
  /-- Put a label in front of the name at hand. -/
  | child (label : String)
  /-- Read the domain of a stored record. -/
  | stored (fields : List (String × Json))

/-- The name that an attempt makes. -/
def Attempt.result? (atHand : Option Name) : Attempt → Option Name
  | .text s => (ofText s).toOption
  | .labels texts => (texts.mapM Label.ofText >>= ofLabels).toOption
  | .child label => atHand.bind fun n => (n.child label).toOption
  | .stored fields => (ofField fields).toOption

/-- The name at hand after an attempt. If it fails, this is the one from before. -/
def Attempt.step (atHand : Option Name) (a : Attempt) : Option Name :=
  (a.result? atHand).or atHand

/-- The name at hand after attempts one after another, of which there is none at first. -/
def made (attempts : List Attempt) : Option Name := attempts.foldl Attempt.step none

theorem made_concat (attempts : List Attempt) (a : Attempt) :
    made (attempts ++ [a]) = a.step (made attempts) := by
  rw [made, List.foldl_append]
  rfl

theorem made_singleton (a : Attempt) : made [a] = a.result? none := by
  simp [made, Attempt.step]

theorem ofText_text (n : Name) : ofText n.text = .ok n :=
  (ofText_eq_ok_iff n.unrooted_text).mpr n.toLower_text

theorem made_text (n : Name) : made [.text n.text] = some n := by
  rw [made_singleton, Attempt.result?, ofText_text]
  rfl

theorem made_labels (n : Name) : made [.labels (n.labels.map Label.text)] = some n := by
  rw [made_singleton, Attempt.result?, mapM_ofText_text]
  change (ofLabels n.labels).toOption = some n
  rw [ofLabels_labels]
  rfl

theorem made_stored (n : Name) : made [.stored [("domain", .string n.text)]] = some n := by
  have hfield : ofField [("domain", .string n.text)] =
      (ofText n.text).mapError DecodeError.name := rfl
  rw [made_singleton, Attempt.result?, hfield, ofText_text]
  rfl

theorem Lawful.tail {t : String} (h : Lawful (t :: texts)) (hne : texts ≠ []) : Lawful texts where
  nonempty := hne
  labels := (List.forall_mem_cons.mp h.labels).2
  size_le := by
    have hsize := h.size_le
    rw [String.intercalate_cons_of_ne_nil hne, String.utf8ByteSize_append] at hsize
    omega

/-- A name grows to its left, label by label from the last one. -/
theorem made_children {above : List String} {last : String} (h : Lawful (above ++ [last])) :
    ∃ n : Name, n.labels.map Label.text = above ++ [last] ∧
      made (.text last :: above.reverse.map .child) = some n := by
  induction above with
  | nil =>
    obtain ⟨n, hn⟩ := h.exists_name
    have htext : n.text = last := by
      rw [text, hn]
      exact String.intercalate_singleton
    exact ⟨n, hn, htext ▸ made_text n⟩
  | cons t above ih =>
    obtain ⟨m, hm, hmade⟩ := ih (h.tail (by simp))
    obtain ⟨n, hn⟩ := h.exists_name
    have hlawful : Label.Lawful t := h.labels t List.mem_cons_self
    obtain ⟨l, rfl⟩ := hlawful.exists_label
    have hchild : m.child l.text = .ok n := by
      rw [child_text, ofLabels_eq_ok_iff]
      refine List.map_injective_iff.mpr (fun _ _ => Label.ext_text) ?_
      rw [hn, List.map_cons, hm]
      rfl
    refine ⟨n, hn, ?_⟩
    rw [List.reverse_cons, List.map_append, List.map_singleton, ← List.cons_append, made_concat,
      hmade, Attempt.step, Attempt.result?, Option.bind_some, hchild]
    rfl

/-- **What names there are.** Whatever is made in any number of attempts, failed ones among them,
has 1 to 127 lawful labels and a text of the counted length, which is at most 253 and leaves 255
octets on the wire. And all lawful labels make a name, whichever way is taken. -/
theorem made_lawful :
    (∀ (attempts : List Attempt) (n : Name), made attempts = some n →
      (1 ≤ n.labels.length ∧ n.labels.length ≤ 127) ∧
      (∀ l ∈ n.labels, Label.Lawful l.text) ∧
      (n.text.utf8ByteSize = textSize n.labels ∧
        textSize n.labels = (n.labels.map Label.size).sum + (n.labels.length - 1) ∧
        textSize n.labels ≤ 253) ∧
      (Dns.writeName n).length ≤ 255) ∧
    ∀ texts, Lawful texts → ∃ n : Name, n.labels.map Label.text = texts ∧
      made [.labels texts] = some n ∧ made [.text (".".intercalate texts)] = some n ∧
      made [.stored [("domain", .string (".".intercalate texts))]] = some n ∧
      ∀ above last, texts = above ++ [last] →
        made (.text last :: above.reverse.map .child) = some n := by
  refine ⟨fun attempts n _ => ?_, fun texts h => ?_⟩
  · have hpos : 1 ≤ n.labels.length := List.length_pos_of_ne_nil n.nonempty
    have hsize : textSize n.labels ≤ 253 := n.size_le
    refine ⟨⟨hpos, n.length_labels_le⟩, fun l _ => l.lawful_text,
      ⟨n.utf8ByteSize_text, textSize_eq_sum n.labels, hsize⟩, ?_⟩
    rw [length_writeName]
    omega
  · obtain ⟨n, rfl⟩ := h.exists_name
    refine ⟨n, rfl, made_labels n, made_text n, made_stored n, fun above last htexts => ?_⟩
    rw [htexts] at h
    obtain ⟨m, hm, hmade⟩ := made_children h
    rwa [text_injective (congrArg (".".intercalate ·) (htexts.trans hm.symm))]

def labelOfZ : Label := ⟨"z", by decide, by decide, List.all_eq_true.mp (by decide)⟩

theorem textSize_longest : textSize (List.replicate 127 labelOfZ) = 253 := by
  rw [textSize_eq_sum, List.map_replicate, List.sum_replicate_nat, List.length_replicate]
  decide

/-- A name with as many labels as there can be. -/
def longest : Name where
  labels := List.replicate 127 labelOfZ
  nonempty := by simp
  size_le := Nat.le_of_eq textSize_longest

/-- There is no room for one more label, and the attempt leaves the name as it is. -/
theorem made_longest : Lawful (List.replicate 127 "z") ∧
    made [.labels (List.replicate 127 "z"), .child "z"] = some longest ∧
    longest.labels.length ≤ 127 ∧ (Dns.writeName longest).length ≤ 255 := by
  have htexts : longest.labels.map Label.text = List.replicate 127 "z" := List.map_replicate
  have hlawful : Lawful (List.replicate 127 "z") := htexts ▸ longest.lawful_labels
  obtain ⟨hmade, hways⟩ := made_lawful
  obtain ⟨n, hn, hlabels, -⟩ := hways _ hlawful
  obtain rfl : n = longest := text_injective (congrArg (".".intercalate ·) (hn.trans htexts.symm))
  have hchild : longest.child labelOfZ.text = .error .longName := by
    apply child_eq_longName
    have hsize : textSize longest.labels = 253 := textSize_longest
    rw [← textSize_child, textSize_cons _ longest.nonempty, hsize]
    decide
  have hboth : made [.labels (List.replicate 127 "z"), .child "z"] = some longest := by
    have hstep := made_concat [.labels (List.replicate 127 "z")] (.child labelOfZ.text)
    rw [hlabels, Attempt.step, Attempt.result?, Option.bind_some, hchild] at hstep
    exact hstep
  obtain ⟨⟨-, hcount⟩, -, -, hwire⟩ := hmade _ longest hboth
  exact ⟨hlawful, hboth, hcount, hwire⟩

end Name

end PublicSuffix
