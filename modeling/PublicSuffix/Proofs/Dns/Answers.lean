import PublicSuffix.Dns.Stub
import PublicSuffix.Proofs.Dns.Wire
import Mathlib.Data.List.Forall2

/-!
# Answers, and what a library makes of them

`AnswerForm` is an answer as it stands in a message: the header, the questions, the records that
answer them, and whatever sections follow. What a name may look like, for instance whether it may
point to another one, is for the library to say; so names are any octets here, and they are well
formed if the library takes each of them to end where it does (`AnswerForm.Named`).

`Library.Documented` has what is relied on: an answer is read record by record, the records are told
apart by their types, and the data of a text record are read as the character strings that they
are. The texts of a complete answer are then those of its text records, read one by one
(`texts_octets`): all of them, if each holds a text (`mapM_recordText_of_holds`), or none, if one
cannot be read (`mapM_recordText_of_error`). There is no third way (`AnswerForm.tells_or_broken`).
-/

namespace PublicSuffix.Dns

/-! ## The form of an answer -/

/-- The type of text records. -/
def txtType : Nat := 16

/-- A question as it stands in a message. -/
structure QuestionForm where
  name : List UInt8
  type : UInt16
  cls : UInt16

/-- A record as it stands in a message. -/
structure RecordForm where
  owner : List UInt8
  type : UInt16
  cls : UInt16
  ttl : UInt32
  data : List UInt8
  length_data : data.length < 65536

/-- An answer: the header, the questions, the records that answer them, and whatever sections
follow. -/
structure AnswerForm where
  id : UInt16
  flags : UInt16
  questions : List QuestionForm
  records : List RecordForm
  authorities : UInt16
  additionals : UInt16
  further : List UInt8
  length_questions : questions.length < 65536
  length_records : records.length < 65536

/-! ### In octets -/

def QuestionForm.octets (q : QuestionForm) : List UInt8 :=
  q.name ++ (writeWord q.type.toNat ++ writeWord q.cls.toNat)

/-- The type, the class, the time to live and the length of the data. -/
def RecordForm.fixed (r : RecordForm) : List UInt8 :=
  writeWord r.type.toNat ++ (writeWord r.cls.toNat ++ (writeWord (r.ttl.toNat / 65536) ++
    (writeWord (r.ttl.toNat % 65536) ++ writeWord r.data.length)))

def RecordForm.octets (r : RecordForm) : List UInt8 := r.owner ++ (r.fixed ++ r.data)

def RecordForm.isText (r : RecordForm) : Bool := r.type.toNat = txtType

/-- The data of the text records, in order. -/
def textData (rs : List RecordForm) : List (List UInt8) :=
  (rs.filter RecordForm.isText).map RecordForm.data

theorem textData_cons (r : RecordForm) (rs : List RecordForm) :
    textData (r :: rs) = if r.isText then r.data :: textData rs else textData rs := by
  rw [textData, List.filter_cons]
  split <;> rfl

/-- Names stand in a message from place `i` on, each with a gap behind it, and a reader takes each
of them to end where its gap begins. -/
def NamesAt (nameEnd : Nat → Option Nat) : Nat → List (List UInt8 × Nat) → Prop
  | _, [] => True
  | i, (name, gap) :: names =>
    nameEnd i = some (i + name.length) ∧ NamesAt nameEnd (i + (name.length + gap)) names

instance NamesAt.decide (nameEnd : Nat → Option Nat) :
    (i : Nat) → (names : List (List UInt8 × Nat)) → Decidable (NamesAt nameEnd i names)
  | _, [] => .isTrue trivial
  | i, (name, gap) :: names =>
    have := NamesAt.decide nameEnd (i + (name.length + gap)) names
    inferInstanceAs (Decidable (nameEnd i = some (i + name.length) ∧
      NamesAt nameEnd (i + (name.length + gap)) names))

/-- The name of a question, with the type and the class behind it. -/
def QuestionForm.named (q : QuestionForm) : List UInt8 × Nat := (q.name, 4)

/-- The owner of a record, with the rest of the record behind it. -/
def RecordForm.named (r : RecordForm) : List UInt8 × Nat := (r.owner, 10 + r.data.length)

namespace AnswerForm

def body (a : AnswerForm) : List UInt8 :=
  a.questions.flatMap QuestionForm.octets ++ (a.records.flatMap RecordForm.octets ++ a.further)

/-- The octets of an answer. It announces as many questions and records as it has. -/
def octets (a : AnswerForm) : List UInt8 :=
  writeWord a.id.toNat ++ (writeWord a.flags.toNat ++ (writeWord a.questions.length ++
    (writeWord a.records.length ++
      (writeWord a.authorities.toNat ++ (writeWord a.additionals.toNat ++ a.body)))))

/-- The response code. -/
def code (a : AnswerForm) : Nat := a.flags.toNat % 16

/-- Whether the answer was cut to fit. -/
def truncated (a : AnswerForm) : Bool := a.flags.toNat / 512 % 2 = 1

/-- The names of the questions and records are what a reader takes them for. The header has twelve
octets. -/
def Named (a : AnswerForm) (nameEnd : List UInt8 → Nat → Option Nat) : Prop :=
  NamesAt (nameEnd a.octets) 12
    (a.questions.map QuestionForm.named ++ a.records.map RecordForm.named)

instance (a : AnswerForm) (nameEnd : List UInt8 → Nat → Option Nat) :
    Decidable (a.Named nameEnd) :=
  NamesAt.decide _ _ _

/-- The text records hold these texts, in order. Into which strings the texts are cut is left open,
and so is what else the answer holds. -/
def Tells (a : AnswerForm) (texts : List (List UInt8)) : Prop :=
  List.Forall₂ Holds texts (textData a.records)

/-- Some text record ends within a string. -/
def Broken (a : AnswerForm) : Prop := ∃ data ∈ textData a.records, Overruns data

/-- There is nothing between these two, unless a text record has no data at all. -/
theorem tells_or_broken {a : AnswerForm} (h : ∀ d ∈ textData a.records, d ≠ []) :
    (∃ texts, a.Tells texts) ∨ a.Broken := by
  rw [Classical.or_iff_not_imp_right]
  intro hbroken
  have hholds : ∀ d ∈ textData a.records, ∃ text, Holds text d := fun d hd =>
    ((holds_or_overruns d).resolve_left (h d hd)).resolve_right fun hover => hbroken ⟨d, hd, hover⟩
  choose! text htext using hholds
  exact ⟨_, List.forall₂_map_left_iff.mpr (List.forall₂_same.mpr htext)⟩

end AnswerForm

/-! ## What is relied on -/

/-- How a library reads the parts of a message. -/
structure Parts (Section : Type) where
  /-- Where the name ends that stands at a place of a message, if a name does. -/
  nameEnd : List UInt8 → Nat → Option Nat
  /-- The records of a section as they come, up to the first that cannot be read. -/
  records : Section → List (Except String RecordForm)
  /-- The character strings of the data of a text record. -/
  strings : List UInt8 → Except String (List (List UInt8))

/-- A text record by its strings. Records of other types are passed over, and what cannot be read is
not. -/
def Parts.limited {Section : Type} (parts : Parts Section) :
    Except String RecordForm → Option (Except String (List (List UInt8)))
  | .ok r => if r.isText then some (parts.strings r.data) else none
  | .error reason => some (.error reason)

/-- What a library is relied on for. -/
structure Library.Documented {Section : Type} (lib : Library (List UInt8) Section)
    (parts : Parts Section) : Prop where
  /-- Any domain name in ASCII can be asked for. -/
  ascii : ∀ name : Name, (∀ c ∈ name.text.toList, c.toNat < 0x80) → lib.refusal? name.text = none
  /-- The response code 0 is the one that reports no error. -/
  noError : ∀ a : AnswerForm, lib.noError a.octets = decide (a.code = 0)
  /-- The records that answer a question are read one by one, in order. -/
  inOrder : ∀ a : AnswerForm, a.Named parts.nameEnd →
    ∃ s, lib.answer a.octets = .ok s ∧ parts.records s = a.records.map .ok
  /-- The text records are selected by their type alone. -/
  byType : ∀ s, lib.limitToText s = (parts.records s).filterMap parts.limited
  /-- The data of a text record give its character strings. -/
  strings : ∀ strings ≠ [], (∀ s ∈ strings, s.length ≤ 255) →
    parts.strings (strings.flatMap writeString) = .ok strings
  /-- Data that end within a string cannot be read. -/
  overrun : ∀ data, Overruns data → ∃ reason, parts.strings data = .error reason

/-- The answer reports no error, was not cut and has its names in order. -/
structure AnswerForm.Complete {Section : Type} (a : AnswerForm) (parts : Parts Section) : Prop where
  code : a.code = 0
  whole : a.truncated = false
  named : a.Named parts.nameEnd

/-! ## The texts of an answer -/

section Texts

variable {Section : Type} {lib : Library (List UInt8) Section} {parts : Parts Section}
  {a : AnswerForm} {texts data : List (List UInt8)}

theorem Parts.filterMap_limited (parts : Parts Section) (rs : List RecordForm) :
    (rs.map .ok).filterMap parts.limited = (textData rs).map parts.strings := by
  induction rs with
  | nil => rfl
  | cons r rs ih =>
    rw [List.map_cons, List.filterMap_cons, ih, Parts.limited, textData_cons]
    cases r.isText <;> rfl

/-- Each text record is read on its own, and records of other types leave no trace. -/
theorem texts_octets (hlib : lib.Documented parts) (ha : a.Complete parts) :
    lib.texts a.octets =
      (textData a.records).mapM fun d => Library.recordText (parts.strings d) := by
  obtain ⟨s, hanswer, hrecords⟩ := hlib.inOrder a ha.named
  have hlimited : lib.limitToText s = (textData a.records).map parts.strings := by
    rw [hlib.byType, hrecords, parts.filterMap_limited]
  rw [Library.texts, hlib.noError, ha.code, hanswer]
  simp only [decide_true, if_true, hlimited, List.mapM_map]
  rfl

theorem recordText_of_holds (hlib : lib.Documented parts) {text data : List UInt8}
    (h : Holds text data) :
    Library.recordText (parts.strings data) = .ok (Text.decodeLossy text) := by
  obtain ⟨strings, hne, hlen, rfl, rfl⟩ := h
  rw [hlib.strings strings hne hlen, Library.recordText]

theorem mapM_recordText_of_holds (hlib : lib.Documented parts)
    (h : List.Forall₂ Holds texts data) :
    data.mapM (fun d => Library.recordText (parts.strings d)) =
      .ok (texts.map Text.decodeLossy) := by
  induction h with
  | nil => rfl
  | cons h _ ih =>
    rw [List.mapM_cons, recordText_of_holds hlib h, ih]
    rfl

/-- One record that cannot be read spoils all the others, before it and behind it. -/
theorem mapM_recordText_of_error (parts : Parts Section)
    (h : ∃ d ∈ data, ∃ reason, parts.strings d = .error reason) :
    ∃ d ∈ data, ∃ reason, parts.strings d = .error reason ∧
      data.mapM (fun d => Library.recordText (parts.strings d)) = .error (.parse reason) := by
  induction data with
  | nil =>
    obtain ⟨_, hd, _⟩ := h
    exact absurd hd List.not_mem_nil
  | cons d ds ih =>
    cases hstrings : parts.strings d with
    | error reason =>
      refine ⟨d, List.mem_cons_self, reason, hstrings, ?_⟩
      rw [List.mapM_cons, hstrings]
      rfl
    | ok strings =>
      -- the record at hand is not the one
      have hlater : ∃ e ∈ ds, ∃ reason, parts.strings e = .error reason := by
        obtain ⟨e, he, reason, herror⟩ := h
        rcases List.mem_cons.mp he with rfl | he
        · rw [hstrings] at herror
          cases herror
        · exact ⟨e, he, reason, herror⟩
      obtain ⟨e, he, reason, herror, hmap⟩ := ih hlater
      refine ⟨e, List.mem_cons_of_mem _ he, reason, herror, ?_⟩
      rw [List.mapM_cons, hstrings, hmap]
      rfl

end Texts

end PublicSuffix.Dns
