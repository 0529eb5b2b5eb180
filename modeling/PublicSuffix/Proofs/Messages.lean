import PublicSuffix.Proofs.Domain.Names
import PublicSuffix.Proofs.Offline.Reports
import PublicSuffix.Proofs.Online.Sequential
import PublicSuffix.Proofs.Text.Controls

/-!
# What messages hold

`messages_clean`: no control character comes into a message from a list. Texts that a list may hold
freely are quoted, and what is not quoted is made of labels and numbers. Only what a resolver says
is passed on as it is. A message about lines names them.
-/

namespace PublicSuffix

open Text (Clean)

/-! ## Names and lines -/

theorem Label.isControl_of_isCanonical {c : Char} (h : Label.isCanonical c = true) :
    Text.isControl c = false := by
  by_cases hascii : c.toNat < 0x80
  · have hall : ∀ n < 0x80, Label.isCanonical (Char.ofNat n) = true →
        Text.isControl (Char.ofNat n) = false := by
      decide
    have hchar := hall c.toNat hascii
    rw [Char.ofNat_toNat] at hchar
    exact hchar h
  · rw [Text.isControl_eq_false_iff]
    omega

theorem Label.clean_text (l : Label) : Clean l.text := by
  intro c hc
  exact Label.isControl_of_isCanonical (l.canonical c hc)

theorem Name.clean_text (n : Name) : Clean n.text := by
  unfold text
  induction n.labels with
  | nil => exact Text.clean_of_any (by decide)
  | cons l ls ih =>
    by_cases h : ls = []
    · subst h
      simpa using l.clean_text
    · rw [Name.intercalate_cons l h, Text.clean_append, Text.clean_append]
      exact ⟨⟨l.clean_text, Text.clean_of_any (by decide)⟩, ih⟩

theorem Wildcard.clean_display (w : Wildcard) : Clean w.display :=
  Text.clean_append.mpr ⟨Text.clean_of_any (by decide), w.domain.clean_text⟩

theorem LineRange.clean_display (r : LineRange) : Clean r.display := by
  unfold display
  split
  · exact Text.clean_append.mpr ⟨Text.clean_of_any (by decide), Text.clean_toString _⟩
  · simp only [Text.clean_append, Text.clean_toString, and_true]
    exact ⟨Text.clean_of_any (by decide), Text.clean_of_any (by decide)⟩

/-! ## Reasons -/

theorem NameError.clean_message (e : NameError) : Clean e.message := by
  unfold message
  cases e with
  | disallowedChar c =>
    simp only [Text.clean_append, Text.clean_quotedChar, and_true]
    exact ⟨Text.clean_of_any (by decide), Text.clean_of_any (by decide)⟩
  | _ => exact Text.clean_of_any (by decide)

/-- What the resolver says for itself, and the message passes on. -/
def LookupError.relayed? : LookupError → Option String
  | queryName text | io text | response text | parse text => some text
  | _ => none

theorem LookupError.clean_message {e : LookupError} (h : e.relayed? = none) :
    Clean e.message := by
  unfold message
  cases e with
  | name e => exact e.clean_message
  | timeout | noRecords => exact Text.clean_of_any (by decide)
  | badChangeId digits =>
    exact Text.clean_append.mpr ⟨Text.clean_of_any (by decide), Text.clean_quoted digits⟩
  | _ => cases h

theorem LookupError.clean_message_iff {e : LookupError} {text : String}
    (h : e.relayed? = some text) : Clean e.message ↔ Clean text := by
  unfold message
  cases e with
  | io _ =>
    obtain rfl := Option.some.inj h
    rfl
  | queryName _ | response _ | parse _ =>
    obtain rfl := Option.some.inj h
    exact Text.clean_append.trans (and_iff_right (Text.clean_of_any (by decide)))
  | _ => cases h

/-! ## Violations -/

namespace Violation

/-- What a resolver says for itself about a failed lookup. -/
def relayed? : Violation → Option String
  | failedLookup _ e => e.relayed?
  | _ => none

variable {v : Violation} {r : LineRange} {text : String}

theorem clean_inLines_iff : Clean (inLines r text) ↔ Clean text := by
  rw [inLines, Text.clean_append, Text.clean_append]
  exact and_iff_right ⟨r.clean_display, Text.clean_of_any (by decide)⟩

theorem clean_recordsOf (s : Located Suffix) : Clean (recordsOf s) := by
  rw [recordsOf, Query.label, Text.clean_append, Text.clean_append]
  exact ⟨⟨Text.clean_of_any (by decide), Text.clean_of_any (by decide)⟩,
    s.value.domain.clean_text⟩

theorem clean_message_failedLookup_iff {s : Located Suffix} {e : LookupError} :
    Clean (failedLookup s e).message ↔ Clean e.message := by
  unfold message
  simp only [clean_inLines_iff, Text.clean_append, clean_recordsOf, and_true]
  exact and_iff_right ⟨Text.clean_of_any (by decide), Text.clean_of_any (by decide)⟩

/-- A rule that occurs twice is named as it is written. -/
def NamesRule : Violation → Prop
  | duplicateSuffix name s _ => name = s.value.domain.text
  | duplicateWildcard name w _ => name = w.value.display
  | _ => True

theorem clean_message (h : v.relayed? = none) (hrule : v.NamesRule) : Clean v.message := by
  cases v with
  | failedLookup s e => exact clean_message_failedLookup_iff.mpr (LookupError.clean_message h)
  | duplicateSuffix name s first =>
    obtain rfl : name = s.value.domain.text := hrule
    unfold message
    simp only [clean_inLines_iff, Text.clean_append, Name.clean_text, LineRange.clean_display,
      and_true]
    exact ⟨Text.clean_of_any (by decide), Text.clean_of_any (by decide)⟩
  | duplicateWildcard name w first =>
    obtain rfl : name = w.value.display := hrule
    unfold message
    simp only [clean_inLines_iff, Text.clean_append, Wildcard.clean_display,
      LineRange.clean_display, and_true]
    exact ⟨Text.clean_of_any (by decide), Text.clean_of_any (by decide)⟩
  | wrongChange s expected declared =>
    unfold message
    cases declared <;>
      simp only [clean_inLines_iff, Text.clean_append, clean_recordsOf, Text.clean_toString,
        and_true, true_and]
    · exact Text.clean_of_any (by decide)
    · exact ⟨Text.clean_of_any (by decide), Text.clean_of_any (by decide)⟩
  | missingSection name =>
    exact Text.clean_append.mpr ⟨Text.clean_of_any (by decide), Text.clean_quoted name⟩
  | _ =>
    unfold message
    simp only [clean_inLines_iff, Text.clean_append, Text.clean_quoted, NameError.clean_message,
      LineRange.clean_display, Wildcard.clean_display, Name.clean_text, and_true]
    and_intros <;> exact Text.clean_of_any (by decide)

theorem clean_message_iff (h : v.relayed? = some text) : Clean v.message ↔ Clean text := by
  cases v with
  | failedLookup s e => exact clean_message_failedLookup_iff.trans (LookupError.clean_message_iff h)
  | _ => cases h

theorem inLines_eq : inLines r text = "" ++ r.display ++ (": " ++ text) := by
  rw [inLines, String.empty_append, String.append_assoc]

theorem inLines_append {last : String} :
    inLines r (text ++ last) = inLines r text ++ last ++ "" := by
  rw [inLines, inLines, String.append_empty, ← String.append_assoc]

/-- The lines stand at the beginning, but for those of the wildcard that excludes a suffix. -/
theorem exists_message_eq (h : v.lines? = some r) :
    ∃ before after, v.message = before ++ r.display ++ after := by
  unfold message
  cases v with
  | missingSection _ => cases h
  | excludedSuffix s w =>
    obtain rfl := Option.some.inj h
    exact ⟨_, "", inLines_append⟩
  | wrongChange s expected declared =>
    obtain rfl := Option.some.inj h
    cases declared <;> exact ⟨"", _, inLines_eq⟩
  | _ =>
    obtain rfl := Option.some.inj h
    exact ⟨"", _, inLines_eq⟩

/-! ## Reports -/

theorem of_mem_validate {policy : ContactPolicy} {l : SuffixList}
    (h : v ∈ Offline.validate policy l) : v.relayed? = none ∧ v.NamesRule := by
  rcases Offline.mem_validate.mp h with h | h | h
  · obtain ⟨_, _, _, _, _, ⟨_, rfl⟩ | ⟨_, _, rfl⟩⟩ := Offline.mem_contactViolations.mp h <;>
      exact ⟨rfl, trivial⟩
  · obtain ⟨_, _, _, rfl⟩ | ⟨_, _, _, rfl⟩ | ⟨_, _, rfl⟩ := Offline.mem_structureViolations.mp h <;>
      exact ⟨rfl, trivial⟩
  · obtain ⟨_, _, _, rfl⟩ | ⟨_, _, _, rfl⟩ | ⟨_, _, _, _, ⟨_, _, _, rfl⟩ | ⟨_, _, _, _, rfl⟩⟩ :=
      Offline.mem_ruleViolations.mp h
    · exact ⟨rfl, rfl⟩
    · exact ⟨rfl, rfl⟩
    · exact ⟨rfl, trivial⟩
    · exact ⟨rfl, trivial⟩

/-- A verification reports no repetitions. -/
theorem namesRule_of_mem_verify {resolver : Resolver} {settings : Settings}
    {expected : Option ChangeId} {deadline : Option Nat} {l : SuffixList}
    (h : v ∈ (Online.verify resolver settings expected deadline l).violations) : v.NamesRule := by
  obtain ⟨found, hfound, rfl⟩ := List.mem_map.mp h
  rw [List.mem_mergeSort, List.mem_append, List.mem_map, List.mem_filterMap] at hfound
  rcases hfound with ⟨w, _, rfl⟩ | ⟨t, _, ht⟩
  · trivial
  · obtain ⟨w, hw, rfl⟩ := Option.map_eq_some_iff.mp ht
    obtain ⟨_, rfl⟩ | ⟨_, _, rfl⟩ := Online.eq_of_verdict hw <;> trivial

end Violation

/-- **No message is broken by a list.** Whatever the names in it, the messages of the rules that
need no network have no control character, and those of a verification have none but what a
resolver says itself. Each message about lines names them. -/
theorem messages_clean :
    (∀ (policy : ContactPolicy) (l : SuffixList),
      ∀ v ∈ Offline.validate policy l, Clean v.message) ∧
    (∀ (resolver : Resolver) (settings : Settings) (expected : Option ChangeId)
      (deadline : Option Nat) (l : SuffixList),
      ∀ v ∈ (Online.verify resolver settings expected deadline l).violations,
        (v.relayed? = none → Clean v.message) ∧
          ∀ text, v.relayed? = some text → (Clean v.message ↔ Clean text)) ∧
    ∀ (v : Violation) (r : LineRange), v.lines? = some r →
      ∃ before after, v.message = before ++ r.display ++ after := by
  refine ⟨?_, ?_, ?_⟩
  · intro policy l v hv
    obtain ⟨hrelayed, hrule⟩ := Violation.of_mem_validate hv
    exact Violation.clean_message hrelayed hrule
  · intro resolver settings expected deadline l v hv
    exact ⟨fun h => Violation.clean_message h (Violation.namesRule_of_mem_verify hv),
      fun text => Violation.clean_message_iff⟩
  · intro v r hr
    exact Violation.exists_message_eq hr

/-- A wildcard with an exception that is no label. -/
def garbledWildcard : Wildcard where
  domain := Online.nameOfA
  exceptions := ["\x7f"]
  lines := .line 7
  changed := true

/-- A list with a line break in the name of an entity. -/
def garbled : SuffixList where
  blocks := [.group (.ofSection { name := privateSection })
    [.group (.ofEntity { info := { name := "A\nB" }, changed := true })
      [.entry (.ofSuffix { domain := Online.nameOfA }), .entry (.ofWildcard garbledWildcard)]]]

/-- A resolver that breaks a line itself. -/
def broken : Resolver := fun _ => ⟨some 0, .error (.io "broken\npipe")⟩

def garbledContact : Violation :=
  .missingContact ⟨2, { info := { name := "A\nB" }, changed := true }⟩

def garbledException : Violation :=
  .badException ⟨4, garbledWildcard⟩ "\x7f" (.disallowedChar '\x7f')

def brokenLookup : Violation := .failedLookup ⟨3, { domain := Online.nameOfA }⟩ (.io "broken\npipe")

/-- What the list says is quoted, and what the resolver says is not. -/
theorem messages_garbled :
    (garbledContact ∈ Offline.validate (fun _ => false) garbled ∧ Clean garbledContact.message) ∧
    (garbledException ∈ Offline.validate (fun _ => false) garbled ∧
      Clean garbledException.message) ∧
    (.unverifiableWildcard ⟨4, garbledWildcard⟩ ∈
        (Online.verify broken {} none none garbled).violations ∧
      Clean (Violation.unverifiableWildcard ⟨4, garbledWildcard⟩).message) ∧
    (brokenLookup ∈ (Online.verify broken {} none none garbled).violations ∧
      ¬Clean brokenLookup.message) ∧
    garbledException.lines? = some (.line 7) ∧
    ∃ before after, garbledException.message = before ++ (LineRange.line 7).display ++ after := by
  obtain ⟨hoffline, honline, hlines⟩ := messages_clean
  have hcontact : garbledContact ∈ Offline.validate (fun _ => false) garbled := by decide +kernel
  have hexception : garbledException ∈ Offline.validate (fun _ => false) garbled := by
    decide +kernel
  have hsequential : (Online.verify broken {} none none garbled).violations =
      Online.sequential broken 10000 none garbled :=
    Online.violations_eq_sequential (Online.cancelled_of_no_deadline ..)
  have hwildcard : .unverifiableWildcard ⟨4, garbledWildcard⟩ ∈
      (Online.verify broken {} none none garbled).violations := by
    rw [hsequential]
    decide +kernel
  have hlookup : brokenLookup ∈ (Online.verify broken {} none none garbled).violations := by
    rw [hsequential]
    decide +kernel
  refine ⟨⟨hcontact, hoffline _ _ _ hcontact⟩, ⟨hexception, hoffline _ _ _ hexception⟩,
    ⟨hwildcard, (honline _ _ _ _ _ _ hwildcard).1 rfl⟩, ⟨hlookup, ?_⟩, rfl, hlines _ _ rfl⟩
  rw [(honline _ _ _ _ _ _ hlookup).2 "broken\npipe" rfl]
  intro hclean
  exact absurd (hclean '\n' (by decide)) (by decide)

end PublicSuffix
