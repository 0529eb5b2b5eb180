import PublicSuffix.Proofs.Dns.Plain
import PublicSuffix.Proofs.Provenance.Outcomes
import PublicSuffix.Proofs.Text.Octets

/-!
# Answers are read back whole

`ask_answering`: with a library that can be relied on, a server that can be asked for a name and has
an answer to it is understood. The texts are the ones which the text records hold, one for each and
in their order. How they are cut into strings does not matter, and neither do owners, classes and
the records of other types. A text record that ends within a string leaves no texts at all.
-/

namespace PublicSuffix.Dns

variable {Section : Type} {lib : Library (List UInt8) Section} {parts : Parts Section}
  {server server' : Server (List UInt8)} {name domain : Name} {a : AnswerForm}
  {texts : List (List UInt8)} {delay : Name → Option Nat} {timeout : Nat}

section Asked

variable (hlib : lib.Documented parts) (hname : ∀ c ∈ name.text.toList, c.toNat < 0x80)
  (hserver : server name = .ok a.octets) (ha : a.Complete parts)
include hlib hname hserver ha

theorem ask_eq : lib.ask server name =
    (textData a.records).mapM fun d => Library.recordText (parts.strings d) := by
  rw [Library.ask, hlib.ascii name hname, hserver]
  exact texts_octets hlib ha

theorem ask_of_tells (h : a.Tells texts) :
    lib.ask server name = .ok (texts.map Text.decodeLossy) := by
  rw [ask_eq hlib hname hserver ha, mapM_recordText_of_holds hlib h]

theorem ask_of_broken (h : a.Broken) :
    ∃ d ∈ textData a.records, ∃ reason, parts.strings d = .error reason ∧
      lib.ask server name = .error (.parse reason) := by
  obtain ⟨d, hd, hover⟩ := h
  rw [ask_eq hlib hname hserver ha]
  exact mapM_recordText_of_error parts ⟨d, hd, hlib.overrun d hover⟩

end Asked

/-- Servers with the same answer to the one name that is asked for give the same change. -/
theorem lookupChange_of_ask_eq (h : lib.ask server' name = lib.ask server name)
    (hname : name.text = "_psl." ++ domain.text) :
    lookupChange (lib.resolver server' delay) timeout domain =
      lookupChange (lib.resolver server delay) timeout domain := by
  refine lookupChange_congr fun other hother => ?_
  obtain rfl := Name.text_injective (hother.trans hname.symm)
  rw [Library.resolver, Library.resolver, h]

theorem lookupChange_of_ask_eq_ok {texts : List String} (h : lib.ask server name = .ok texts)
    (hname : name.text = "_psl." ++ domain.text)
    (hdelay : ∃ d, delay name = some d ∧ d ≤ timeout) (hne : texts ≠ []) :
    lookupChange (lib.resolver server delay) timeout domain = changeOfRecords texts :=
  lookupChange_of_delivers hname ⟨hdelay, h⟩ hne

theorem lookupChange_of_ask_eq_error {e : LookupError} (h : lib.ask server name = .error e)
    (hname : name.text = "_psl." ++ domain.text)
    (hdelay : ∃ d, delay name = some d ∧ d ≤ timeout) :
    lookupChange (lib.resolver server delay) timeout domain = .error e :=
  (lookupChange_eq_iff_gives hname).mpr (.failed (Reply.not_late_iff.mpr hdelay) h)

/-- **Answers are read back whole.** Through a library that can be relied on, a complete answer to a
name that can be asked for gives its texts, decoded leniently; texts that were written as UTF-8 are
the same again. So any two answers that tell the same texts give the same strings and the same
change. If one text record is broken, the answer cannot be read at all. -/
theorem ask_answering (hlib : lib.Documented parts) (hname : ∀ c ∈ name.text.toList, c.toNat < 0x80)
    (hserver : server name = .ok a.octets) (ha : a.Complete parts) :
    (∀ texts, a.Tells texts → lib.ask server name = .ok (texts.map Text.decodeLossy)) ∧
    (∀ texts : List String, a.Tells (texts.map Text.octets) →
      lib.ask server name = .ok texts) ∧
    (∀ (texts : List (List UInt8)) (server' : Server (List UInt8)) (a' : AnswerForm),
      server' name = .ok a'.octets → a'.Complete parts → a.Tells texts → a'.Tells texts →
      lib.ask server' name = lib.ask server name ∧
      ∀ delay timeout domain, name.text = "_psl." ++ domain.text →
        lookupChange (lib.resolver server' delay) timeout domain =
          lookupChange (lib.resolver server delay) timeout domain) ∧
    (a.Broken → ∃ d ∈ textData a.records, ∃ reason, parts.strings d = .error reason ∧
      lib.ask server name = .error (.parse reason) ∧
      ∀ delay timeout domain, name.text = "_psl." ++ domain.text →
        (∃ t, delay name = some t ∧ t ≤ timeout) →
          lookupChange (lib.resolver server delay) timeout domain = .error (.parse reason)) := by
  refine ⟨fun texts h => ask_of_tells hlib hname hserver ha h, fun texts h => ?_,
    fun texts server' a' hserver' ha' h h' => ?_, fun h => ?_⟩
  · have hdecoded : (texts.map Text.octets).map Text.decodeLossy = texts := by
      rw [List.map_map]
      exact (List.map_congr_left fun s _ => Text.decodeLossy_octets s).trans (List.map_id texts)
    rw [ask_of_tells hlib hname hserver ha h, hdecoded]
  · have hask : lib.ask server' name = lib.ask server name := by
      rw [ask_of_tells hlib hname hserver' ha' h', ask_of_tells hlib hname hserver ha h]
    exact ⟨hask, fun delay timeout domain => lookupChange_of_ask_eq hask⟩
  · obtain ⟨d, hd, reason, hstrings, hask⟩ := ask_of_broken hlib hname hserver ha h
    exact ⟨d, hd, reason, hstrings, hask,
      fun delay timeout domain => lookupChange_of_ask_eq_error hask⟩

/-! ## A text cut within a character -/

/-- The label `example`. -/
def exampleLabel : Label :=
  ⟨"example", by decide, by decide, List.all_eq_true.mp (by decide)⟩

def exampleName : Name := ⟨[exampleLabel], by decide, by decide⟩

def pslExampleName : Name := ⟨[Query.pslLabel, exampleLabel], by decide, by decide⟩

/-- The data of a record of the name that is asked for. -/
def record (type cls : UInt16) (data : List UInt8) (h : data.length < 65536) : RecordForm :=
  ⟨writeName pslExampleName, type, cls, 3600, data, h⟩

/-- An answer to the question for the name. -/
def answerWith (records : List RecordForm) (h : records.length < 65536) : AnswerForm where
  id := 7
  flags := 0x8180
  questions := [⟨writeName pslExampleName, 16, 1⟩]
  records := records
  authorities := 0
  additionals := 0
  further := []
  length_questions := by decide
  length_records := h

/-- Two strings that meet in the middle of `é`. -/
def cutData : List UInt8 :=
  writeString (Text.octets "https://" ++ [0xc3]) ++ writeString (0xa9 :: Text.octets "/1/17")

/-- A text record of another class, behind a record of another type. -/
def cutAnswer : AnswerForm :=
  answerWith [record 1 1 [192, 0, 2, 1] (by decide), record 16 3 cutData (by decide)] (by decide)

/-- The same text in one string. -/
def wholeAnswer : AnswerForm :=
  answerWith [record 16 1 (writeString (Text.octets "https://é/1/17")) (by decide)] (by decide)

/-- Data that announce five octets and have one, behind a good record. -/
def brokenAnswer : AnswerForm :=
  answerWith [record 16 1 cutData (by decide), record 16 1 [5, 0x68] (by decide)] (by decide)

/-- The server that has an answer to every question. -/
def answering (a : AnswerForm) : Server (List UInt8) := fun _ => .ok a.octets

/-- What is looked up from an answer that takes 3 ms, of which 5 are allowed. -/
def lookupFrom (a : AnswerForm) : Except LookupError (Option ChangeId) :=
  lookupChange (Plain.library.resolver (answering a) fun _ => some 3) 5 exampleName

/-- The text is put together again, however it is cut, and a broken record hides it. -/
theorem ask_answering_cut :
    Plain.library.ask (answering cutAnswer) pslExampleName = .ok ["https://é/1/17"] ∧
    lookupFrom cutAnswer = .ok (some 17) ∧ lookupFrom wholeAnswer = lookupFrom cutAnswer ∧
    ∃ reason, lookupFrom brokenAnswer = .error (.parse reason) := by
  have hascii : ∀ c ∈ pslExampleName.text.toList, c.toNat < 0x80 := by
    have hall : pslExampleName.text.toList.all (fun c => c.toNat < 0x80) = true := by decide
    simpa using hall
  have hname : pslExampleName.text = "_psl." ++ exampleName.text :=
    Query.nameFor_eq_ok_iff.mp ((Name.child_text exampleName Query.pslLabel).trans
      (Name.ofLabels_labels pslExampleName))
  have hserver : ∀ a, answering a pslExampleName = .ok a.octets := fun a => rfl
  have hcut : cutAnswer.Complete Plain.parts := ⟨by decide, by decide, by decide +kernel⟩
  have hwhole : wholeAnswer.Complete Plain.parts := ⟨by decide, by decide, by decide +kernel⟩
  have hbroken : brokenAnswer.Complete Plain.parts := ⟨by decide, by decide, by decide +kernel⟩
  have htells : cutAnswer.Tells (["https://é/1/17"].map Text.octets) :=
    .cons ⟨[Text.octets "https://" ++ [0xc3], 0xa9 :: Text.octets "/1/17"],
      by decide, by decide, by decide, by decide⟩ .nil
  have htells' : wholeAnswer.Tells (["https://é/1/17"].map Text.octets) :=
    .cons (holds_writeString (by decide)) .nil
  have hends : brokenAnswer.Broken :=
    ⟨[5, 0x68], by decide, [], 5, [0x68], by decide, by decide, by decide⟩
  obtain ⟨-, hread, hsame, -⟩ := ask_answering Plain.documented hascii (hserver cutAnswer) hcut
  obtain ⟨-, -, -, hspoiled⟩ :=
    ask_answering Plain.documented hascii (hserver brokenAnswer) hbroken
  have hask := hread _ htells
  refine ⟨hask, ?_, ?_, ?_⟩
  · have hdelay : ∃ d, some 3 = some d ∧ d ≤ 5 := ⟨3, rfl, by decide⟩
    rw [lookupFrom, lookupChange_of_ask_eq_ok hask hname hdelay (List.cons_ne_nil _ _)]
    decide
  · exact (hsame _ _ _ (hserver wholeAnswer) hwhole htells htells').2 _ 5 _ hname
  · obtain ⟨_, _, reason, _, _, hlookup⟩ := hspoiled hends
    exact ⟨reason, hlookup _ 5 _ hname ⟨3, rfl, by decide⟩⟩

end PublicSuffix.Dns
