import PublicSuffix.Proofs.Dns.Answers

/-!
# A plain library

A library for messages in which every name stands in full. It goes through an answer with the place
of the next name at hand: behind each question that it passes over, and behind each record that it
reads. `Plain.documented` says that it can be relied on.
-/

namespace PublicSuffix.Dns.Plain

/-! ## Reading -/

/-- The number that two octets write. -/
def word (hi lo : UInt8) : UInt16 := .ofNat (hi.toNat * 256 + lo.toNat)

/-- The number of octets up to the end of a name, of which `k` belong to the label at hand. -/
def nameLength : Nat → List UInt8 → Option Nat
  | _, [] => none
  | 0, n :: bs =>
    if n = 0 then some 1
    else if n < 0x40 then (nameLength n.toNat bs).map (· + 1)
    else none
  | k + 1, _ :: bs => (nameLength k bs).map (· + 1)

/-- Where the name ends that stands at a place of a message. It has at most 255 octets. -/
def nameEnd (m : List UInt8) (i : Nat) : Option Nat :=
  ((nameLength 0 (m.drop i)).filter (· ≤ 255)).map (i + ·)

/-- The place behind a number of questions. -/
def questionsEnd (m : List UInt8) : Nat → Nat → Option Nat
  | 0, i => some i
  | n + 1, i => (nameEnd m i).bind fun j => questionsEnd m n (j + 4)

theorem length_take_word_lt (bs : List UInt8) (hi lo : UInt8) :
    (bs.take (word hi lo).toNat).length < 65536 :=
  Nat.lt_of_le_of_lt (List.length_take_le _ _) (word hi lo).toNat_lt

/-- The record of an owner whose name ends at the front. -/
def recordOf (owner : List UInt8) : List UInt8 → Option RecordForm
  | t :: t' :: c :: c' :: s :: s' :: u :: u' :: n :: n' :: bs =>
    if (word n n').toNat ≤ bs.length then
      some {
        owner
        type := word t t'
        cls := word c c'
        ttl := .ofNat ((word s s').toNat * 65536 + (word u u').toNat)
        data := bs.take (word n n').toNat
        length_data := length_take_word_lt bs n n' }
    else none
  | _ => none

/-- The record at a place of a message. -/
def recordAt (m : List UInt8) (i : Nat) : Option RecordForm :=
  (nameEnd m i).bind fun j => recordOf ((m.drop i).take (j - i)) (m.drop j)

/-- A number of records from a place of a message on, up to the first that cannot be read. -/
def recordsFrom (m : List UInt8) : Nat → Nat → List (Except String RecordForm)
  | 0, _ => []
  | n + 1, i =>
    match recordAt m i with
    | none => [.error "bad record"]
    | some r => .ok r :: recordsFrom m n (i + r.octets.length)

/-- The flags and the numbers of questions and records. -/
def header : List UInt8 → Option (UInt16 × Nat × Nat)
  | _ :: _ :: f :: f' :: q :: q' :: n :: n' :: _ :: _ :: _ :: _ :: _ =>
    some (word f f', (word q q').toNat, (word n n').toNat)
  | _ => none

/-- The character strings that follow each other to the end. -/
def readStrings : List UInt8 → Except String (List (List UInt8))
  | [] => .ok []
  | n :: bs =>
    if n.toNat ≤ bs.length then (readStrings (bs.drop n.toNat)).map (bs.take n.toNat :: ·)
    else .error "unexpected end of input"
termination_by bs => bs.length
decreasing_by simp only [List.length_drop, List.length_cons]; omega

/-- The parts of a message. -/
def parts : Parts (List (Except String RecordForm)) where
  nameEnd := nameEnd
  records := id
  strings := readStrings

/-- The records of an answer. -/
def readAnswer (m : List UInt8) : Except String (List (Except String RecordForm)) :=
  match header m with
  | none => .error "unexpected end of input"
  | some (_, questions, records) =>
    match questionsEnd m questions 12 with
    | none => .error "bad question"
    | some i => .ok (recordsFrom m records i)

/-- A library for names in full. -/
def library : Library (List UInt8) (List (Except String RecordForm)) where
  refusal? text := if text.toList.all fun c => c.toNat < 0x80 then none else some "non-ASCII symbol"
  noError m := (header m).any fun h => h.1.toNat % 16 = 0
  codeText m := ((header m).map fun h => toString (h.1.toNat % 16)).getD ""
  answer := readAnswer
  limitToText s := s.filterMap parts.limited

/-! ## Numbers -/

theorem word_writeWord {n : Nat} (h : n < 65536) :
    (word (UInt8.ofNat (n / 256)) (UInt8.ofNat n)).toNat = n := by
  rw [word, UInt16.toNat_ofNat', UInt8.toNat_ofNat', UInt8.toNat_ofNat']
  omega

theorem word_toNat (n : UInt16) : word (UInt8.ofNat (n.toNat / 256)) (UInt8.ofNat n.toNat) = n := by
  rw [← UInt16.toNat_inj, word_writeWord n.toNat_lt]

theorem header_octets (a : AnswerForm) :
    header a.octets = some (a.flags, a.questions.length, a.records.length) := by
  have hcode : header a.octets = some (word (UInt8.ofNat (a.flags.toNat / 256))
      (UInt8.ofNat a.flags.toNat),
        (word (UInt8.ofNat (a.questions.length / 256)) (UInt8.ofNat a.questions.length)).toNat,
        (word (UInt8.ofNat (a.records.length / 256)) (UInt8.ofNat a.records.length)).toNat) := rfl
  rw [hcode, word_toNat, word_writeWord a.length_questions, word_writeWord a.length_records]

/-! ## Questions and records -/

variable {m rest : List UInt8} {i : Nat} {names : List (List UInt8 × Nat)}

theorem drop_add_of_drop {bs : List UInt8} (h : m.drop i = bs ++ rest) :
    m.drop (i + bs.length) = rest := by
  rw [← List.drop_drop, h, List.drop_left]

theorem questionsEnd_eq (qs : List QuestionForm)
    (h : NamesAt (nameEnd m) i (qs.map QuestionForm.named ++ names)) :
    questionsEnd m qs.length i = some (i + (qs.flatMap QuestionForm.octets).length) ∧
      NamesAt (nameEnd m) (i + (qs.flatMap QuestionForm.octets).length) names := by
  induction qs generalizing i with
  | nil => exact ⟨rfl, h⟩
  | cons q qs ih =>
    obtain ⟨hname, h⟩ := h
    have hlength : q.octets.length = q.name.length + 4 := by
      rw [QuestionForm.octets, List.length_append]
      rfl
    rw [List.length_cons, questionsEnd, hname, Option.bind_some, List.flatMap_cons,
      List.length_append, hlength, ← Nat.add_assoc, ← Nat.add_assoc]
    rw [← Nat.add_assoc] at h
    exact ih h

theorem recordOf_octets (r : RecordForm) :
    recordOf r.owner (r.fixed ++ (r.data ++ rest)) = some r := by
  have hlength := word_writeWord r.length_data
  have httl : UInt32.ofNat (r.ttl.toNat / 65536 * 65536 + r.ttl.toNat % 65536) = r.ttl := by
    rw [Nat.div_add_mod', UInt32.ofNat_toNat]
  have hhigh : r.ttl.toNat / 65536 < 65536 := by
    have := r.ttl.toNat_lt
    omega
  have hlow : r.ttl.toNat % 65536 < 65536 := Nat.mod_lt _ (by decide)
  simp only [RecordForm.fixed, writeWord, List.cons_append, List.nil_append, recordOf, hlength,
    word_toNat, word_writeWord hhigh, word_writeWord hlow, httl, List.length_append,
    Nat.le_add_right, if_true, List.take_left]

theorem recordAt_octets (r : RecordForm) (h : m.drop i = r.octets ++ rest)
    (hname : nameEnd m i = some (i + r.owner.length)) : recordAt m i = some r := by
  have hdrop : m.drop i = r.owner ++ (r.fixed ++ (r.data ++ rest)) := by
    rw [h, RecordForm.octets, List.append_assoc, List.append_assoc]
  rw [recordAt, hname, Option.bind_some, Nat.add_sub_cancel_left, drop_add_of_drop hdrop, hdrop,
    List.take_left, recordOf_octets]

theorem recordsFrom_eq (rs : List RecordForm)
    (hdrop : m.drop i = rs.flatMap RecordForm.octets ++ rest)
    (h : NamesAt (nameEnd m) i (rs.map RecordForm.named)) :
    recordsFrom m rs.length i = rs.map .ok := by
  induction rs generalizing i with
  | nil => rfl
  | cons r rs ih =>
    obtain ⟨hname, h⟩ := h
    rw [List.flatMap_cons, List.append_assoc] at hdrop
    have hlength : r.octets.length = r.owner.length + (10 + r.data.length) := by
      rw [RecordForm.octets, List.length_append, List.length_append]
      rfl
    rw [List.length_cons, recordsFrom, recordAt_octets r hdrop hname]
    rw [← hlength] at h
    exact congrArg (.ok r :: ·) (ih (drop_add_of_drop hdrop) h)

theorem readAnswer_octets (a : AnswerForm) (h : a.Named nameEnd) :
    readAnswer a.octets = .ok (a.records.map .ok) := by
  obtain ⟨hquestions, hrecords⟩ := questionsEnd_eq a.questions h
  have hbody : a.octets.drop 12 = a.body := rfl
  rw [readAnswer, header_octets]
  simp only [hquestions]
  rw [recordsFrom_eq a.records (drop_add_of_drop hbody) hrecords]

/-! ## Character strings -/

variable {data : List UInt8}

theorem readStrings_writeString {bs : List UInt8} (h : bs.length ≤ 255) :
    readStrings (writeString bs ++ rest) = (readStrings rest).map (bs :: ·) := by
  have hlength : (UInt8.ofNat bs.length).toNat = bs.length := by
    rw [UInt8.toNat_ofNat']
    omega
  rw [writeString, List.cons_append, readStrings, hlength, if_pos (by simp), List.drop_left,
    List.take_left]

theorem readStrings_append {strings : List (List UInt8)} (h : ∀ s ∈ strings, s.length ≤ 255) :
    readStrings (strings.flatMap writeString ++ rest) = (readStrings rest).map (strings ++ ·) := by
  induction strings with
  | nil =>
    rw [List.flatMap_nil, List.nil_append]
    cases readStrings rest <;> rfl
  | cons s ss ih =>
    obtain ⟨hs, hss⟩ := List.forall_mem_cons.mp h
    rw [List.flatMap_cons, List.append_assoc, readStrings_writeString hs, ih hss]
    cases readStrings rest <;> rfl

theorem readStrings_flatMap {strings : List (List UInt8)} (h : ∀ s ∈ strings, s.length ≤ 255) :
    readStrings (strings.flatMap writeString) = .ok strings := by
  rw [← List.append_nil (strings.flatMap writeString), readStrings_append h, readStrings]
  exact congrArg Except.ok (List.append_nil _)

theorem readStrings_of_overruns (h : Overruns data) :
    readStrings data = .error "unexpected end of input" := by
  obtain ⟨strings, n, short, hlen, hshort, rfl⟩ := h
  rw [readStrings_append hlen, readStrings, if_neg (Nat.not_le.mpr hshort)]
  rfl

/-- **The plain library can be relied on.** -/
theorem documented : library.Documented parts where
  ascii name h := if_pos (by simpa using h)
  noError a := by
    simp only [library, header_octets]
    rfl
  inOrder a h := ⟨_, readAnswer_octets a h, rfl⟩
  byType _ := rfl
  strings _ _ := readStrings_flatMap
  overrun _ h := ⟨_, readStrings_of_overruns h⟩

end PublicSuffix.Dns.Plain
