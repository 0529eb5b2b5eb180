import PublicSuffix.Online.Checks
import PublicSuffix.Proofs.Domain.Names

/-!
# What the records of a suffix decide

A record is usable if it has a change URL with a number below 2^64; then it declares that change. A
longer number spoils the lookup, unless a usable record comes first. So a lookup succeeds if its
name can be built, its reply arrives in time with records, and no number is too long before the
first usable record, which then decides (`lookupChange_eq_ok_iff`). `Vouched` is what the check of
a suffix asks of the records, without reference to how they are looked up (`verdict_eq_none_iff`).
-/

namespace PublicSuffix

/-! ## Single records -/

namespace ChangeUrl

/-- The text has a change URL with the number `n`. -/
def Declares (n : ChangeId) (text : String) : Prop :=
  ∃ digits, number? text = some digits ∧ Text.decimal digits = n.toNat

def Usable (text : String) : Prop := ∃ n, Declares n text

/-- The text has a change URL with a number that does not fit. -/
def Overflows (text : String) : Prop :=
  ∃ digits, number? text = some digits ∧ UInt64.size ≤ Text.decimal digits

section Number

variable {text : String} {digits : List Char} (h : number? text = some digits)
include h

theorem declares_iff {n : ChangeId} : Declares n text ↔ Text.decimal digits = n.toNat := by
  simp [Declares, h]

theorem overflows_iff : Overflows text ↔ UInt64.size ≤ Text.decimal digits := by
  simp [Overflows, h]

end Number

/-- What there is to a text: nothing, the number of a change, or a number that does not fit. -/
theorem changeId_cases (text : String) :
    (changeId text = .ok none ∧ ¬Usable text ∧ ¬Overflows text) ∨
    (∃ n, changeId text = .ok (some n) ∧ (∀ m, Declares m text ↔ m = n) ∧ ¬Overflows text) ∨
    (∃ e, changeId text = .error e ∧ ¬Usable text ∧ Overflows text) := by
  unfold changeId
  cases hdigits : number? text with
  | none => exact .inl ⟨rfl, by simp [Usable, Declares, hdigits], by simp [Overflows, hdigits]⟩
  | some digits =>
    by_cases hsize : Text.decimal digits < UInt64.size
    · refine .inr (.inl ⟨_, if_pos hsize, fun m => ?_, ?_⟩)
      · rw [declares_iff hdigits, ← UInt64.toNat_inj, UInt64.toNat_ofNat_of_lt' hsize, eq_comm]
      · rw [overflows_iff hdigits]
        omega
    · refine .inr (.inr ⟨_, if_neg hsize, ?_, ?_⟩)
      · rintro ⟨n, hn⟩
        rw [declares_iff hdigits] at hn
        exact hsize (hn ▸ n.toNat_lt)
      · rw [overflows_iff hdigits]
        omega

/-! ## The first record that counts -/

/-- A record has property `Q`, and no usable record comes before it. -/
def First (Q : String → Prop) (texts : List String) : Prop :=
  ∃ before text after, texts = before ++ text :: after ∧ (∀ t ∈ before, ¬Usable t) ∧ Q text

variable {Q : String → Prop}

theorem not_first_nil : ¬First Q [] := by
  rintro ⟨before, text, after, h, _⟩
  exact List.cons_ne_nil _ _ (List.append_eq_nil_iff.mp h.symm).2

theorem first_cons {text : String} {texts : List String} :
    First Q (text :: texts) ↔ Q text ∨ ¬Usable text ∧ First Q texts := by
  constructor
  · rintro ⟨before, t, after, heq, hbefore, ht⟩
    cases before with
    | nil =>
      cases heq
      exact .inl ht
    | cons b bs =>
      cases heq
      obtain ⟨hb, hbs⟩ := List.forall_mem_cons.mp hbefore
      exact .inr ⟨hb, bs, t, after, rfl, hbs, ht⟩
  · rintro (h | ⟨h, before, t, after, rfl, hbefore, ht⟩)
    · exact ⟨[], text, texts, rfl, by simp, h⟩
    · exact ⟨text :: before, t, after, rfl, List.forall_mem_cons.mpr ⟨h, hbefore⟩, ht⟩

end ChangeUrl

open ChangeUrl

theorem changeOfRecords_cons (text : String) (texts : List String) :
    changeOfRecords (text :: texts) =
      match changeId text with
      | .ok none => changeOfRecords texts
      | decided => decided := rfl

/-- Only a number that does not fit, before any usable record, is an error. -/
theorem exists_changeOfRecords_iff {texts : List String} :
    (∃ declared, changeOfRecords texts = .ok declared) ↔ ¬First Overflows texts := by
  induction texts with
  | nil => exact iff_of_true ⟨none, rfl⟩ not_first_nil
  | cons text texts ih =>
    rw [changeOfRecords_cons, first_cons]
    rcases changeId_cases text with ⟨h, hu, ho⟩ | ⟨n, h, hu, ho⟩ | ⟨e, h, hu, ho⟩
    · simpa [h, hu, ho] using ih
    · have husable : Usable text := ⟨n, (hu n).mpr rfl⟩
      simp [h, husable, ho]
    · simp [h, ho]

/-- The change is the one of the first usable record. -/
theorem changeOfRecords_eq_some_iff {texts : List String} {n : ChangeId}
    (hclean : ¬First Overflows texts) :
    changeOfRecords texts = .ok (some n) ↔ First (Declares n) texts := by
  induction texts with
  | nil => exact iff_of_false nofun not_first_nil
  | cons text texts ih =>
    rw [first_cons] at hclean
    rw [changeOfRecords_cons, first_cons]
    rcases changeId_cases text with ⟨h, hu, ho⟩ | ⟨m, h, hu, ho⟩ | ⟨e, h, hu, ho⟩
    · have hn : ¬Declares n text := fun hn => hu ⟨n, hn⟩
      have hclean' : ¬First Overflows texts := fun hf => hclean (.inr ⟨hu, hf⟩)
      simpa [h, hu, hn] using ih hclean'
    · have husable : Usable text := ⟨m, (hu m).mpr rfl⟩
      simp [h, husable, hu, eq_comm]
    · exact absurd (.inl ho) hclean

/-! ## Lookups -/

/-- Whether a reply brings records within the timeout. -/
def Reply.Delivers (reply : Reply) (timeout : Nat) (texts : List String) : Prop :=
  (∃ d, reply.delay = some d ∧ d ≤ timeout) ∧ reply.answer = .ok texts

namespace Query

/-- The label `_psl`. -/
def pslLabel : Label :=
  ⟨label, by decide, by decide, List.all_eq_true.mp (by decide)⟩

theorem nameFor_eq_ok_iff {domain name : Name} :
    nameFor domain = .ok name ↔ name.text = "_psl." ++ domain.text :=
  Name.child_eq_ok_iff (l := pslLabel)

theorem name_ofReply (timeout : Nat) (name : Name) (reply : Reply) :
    (ofReply timeout name reply).name = name := by
  unfold ofReply
  split
  · split <;> rfl
  · rfl

theorem answer_ofReply {timeout : Nat} {name : Name} {reply : Reply} {texts : List String} :
    (ofReply timeout name reply).answer = .ok texts ↔ reply.Delivers timeout texts := by
  unfold ofReply Reply.Delivers
  cases reply.delay with
  | none => simp
  | some d => by_cases h : d ≤ timeout <;> simp [h]

theorem change_eq_ok_iff {q : Query} {declared : Option ChangeId} :
    q.change = .ok declared ↔
      ∃ texts, q.answer = .ok texts ∧ texts ≠ [] ∧ changeOfRecords texts = .ok declared := by
  unfold change
  cases q.answer with
  | error e => simp
  | ok texts => cases texts <;> simp

end Query

theorem lookupChange_of_nameFor {resolver : Resolver} {timeout : Nat} {domain name : Name}
    (h : Query.nameFor domain = .ok name) :
    lookupChange resolver timeout domain =
      (Query.ofReply timeout name (resolver name)).change := by
  rw [lookupChange, Query.about, h]
  rfl

/-- **When a lookup succeeds**, and with which result. -/
theorem lookupChange_eq_ok_iff {resolver : Resolver} {timeout : Nat} {domain : Name}
    {declared : Option ChangeId} :
    lookupChange resolver timeout domain = .ok declared ↔
      ∃ name texts, name.text = "_psl." ++ domain.text ∧
        (resolver name).Delivers timeout texts ∧ texts ≠ [] ∧
        changeOfRecords texts = .ok declared := by
  simp only [← Query.nameFor_eq_ok_iff]
  cases hname : Query.nameFor domain with
  | error e => simp [lookupChange, Query.about, hname, changeOfQuery, bind, Except.bind]
  | ok name =>
    rw [lookupChange_of_nameFor hname, Query.change_eq_ok_iff]
    simp [Query.answer_ofReply]

/-! ## Suffixes -/

/-- The records of a suffix can be looked up, and if the suffix is changed they name change `n`. -/
structure Vouched (resolver : Resolver) (timeout : Nat) (n : ChangeId) (s : Suffix) : Prop where
  size_le : ("_psl." ++ s.domain.text).utf8ByteSize ≤ 253
  records : ∃ name texts, name.text = "_psl." ++ s.domain.text ∧
    (resolver name).Delivers timeout texts ∧ texts ≠ [] ∧ ¬First Overflows texts ∧
    (s.changed = true → First (Declares n) texts)

theorem Online.verdict_eq_none_iff {n : ChangeId} {s : Located Suffix}
    {result : Except LookupError (Option ChangeId)} :
    verdict (some n) s result = none ↔
      ∃ declared, result = .ok declared ∧ (s.value.changed = true → declared = some n) := by
  cases result with
  | error e => simp [verdict]
  | ok declared => simp [verdict]

/-- **The check of a suffix** has no objection exactly to what is vouched for. -/
theorem Online.verdict_lookupChange_eq_none_iff {resolver : Resolver} {timeout : Nat}
    {n : ChangeId} {s : Located Suffix} :
    verdict (some n) s (lookupChange resolver timeout s.value.domain) = none ↔
      Vouched resolver timeout n s.value := by
  rw [verdict_eq_none_iff]
  constructor
  · rintro ⟨declared, hlookup, hdeclared⟩
    obtain ⟨name, texts, hname, harrives, hne, hrecords⟩ := lookupChange_eq_ok_iff.mp hlookup
    have hclean := exists_changeOfRecords_iff.mp ⟨declared, hrecords⟩
    refine ⟨?_, name, texts, hname, harrives, hne, hclean, fun hchanged => ?_⟩
    · rw [← hname]
      exact name.utf8ByteSize_text_le
    · rw [← changeOfRecords_eq_some_iff hclean, ← hdeclared hchanged]
      exact hrecords
  · rintro ⟨_, name, texts, hname, harrives, hne, hclean, hnamed⟩
    obtain ⟨declared, hrecords⟩ := exists_changeOfRecords_iff.mpr hclean
    refine ⟨declared, ?_, fun hchanged => ?_⟩
    · exact lookupChange_eq_ok_iff.mpr ⟨name, texts, hname, harrives, hne, hrecords⟩
    · have hsome := (changeOfRecords_eq_some_iff hclean).mpr (hnamed hchanged)
      rw [hrecords] at hsome
      exact Except.ok.inj hsome

end PublicSuffix
