import PublicSuffix.Proofs.Domain.Canonical
import PublicSuffix.Proofs.Provenance.Decision

/-!
# What comes of a lookup

`lookup_outcome`: a lookup asks for one name or, if the domain leaves no room for `_psl`, for none.
What comes of it then depends on the reply at that name alone and is decided by the first of these
that applies: no answer in time, the failure of the resolver, no records at all, the first record
that is not silent. These are the constructors of `Outcome`.

A record is silent if it has no change URL. Silent records do not count wherever they stand
(`changeOfRecords_append`), nor does anything behind a record that is not silent
(`changeOfRecords_append_of_decides`). Hence a result that some record decides is not changed by
records added in such places (`Padded`).
-/

namespace PublicSuffix

open ChangeUrl

variable {resolver : Resolver} {timeout : Nat} {domain name : Name} {texts texts' : List String}

/-! ## The records -/

/-- The text has no change URL, so that the next record is looked at. -/
def ChangeUrl.Silent (text : String) : Prop := changeId text = .ok none

instance (text : String) : Decidable (Silent text) := inferInstanceAs (Decidable (_ = _))

theorem changeOfRecords_append {before : List String} (h : ∀ t ∈ before, Silent t)
    (texts : List String) : changeOfRecords (before ++ texts) = changeOfRecords texts := by
  induction before with
  | nil => rfl
  | cons t ts ih =>
    obtain ⟨ht, hts⟩ := List.forall_mem_cons.mp h
    rw [List.cons_append, changeOfRecords_cons, show changeId t = .ok none from ht]
    exact ih hts

theorem changeOfRecords_cons_of_not_silent {text : String} (h : ¬Silent text)
    (texts : List String) : changeOfRecords (text :: texts) = changeId text := by
  rw [changeOfRecords_cons]
  split
  · next hsilent => exact absurd hsilent h
  · rfl

/-- All records are silent, or there is a first one that is not. -/
theorem silent_or_first (texts : List String) : (∀ t ∈ texts, Silent t) ∨
    ∃ before text after, texts = before ++ text :: after ∧ (∀ t ∈ before, Silent t) ∧
      ¬Silent text := by
  induction texts with
  | nil => exact .inl fun _ h => absurd h List.not_mem_nil
  | cons text texts ih =>
    by_cases htext : Silent text
    · rcases ih with hall | ⟨before, t, after, rfl, hbefore, ht⟩
      · exact .inl (List.forall_mem_cons.mpr ⟨htext, hall⟩)
      · exact .inr ⟨text :: before, t, after, rfl, List.forall_mem_cons.mpr ⟨htext, hbefore⟩, ht⟩
    · exact .inr ⟨[], text, texts, rfl, fun _ h => absurd h List.not_mem_nil, htext⟩

theorem changeOfRecords_of_silent (h : ∀ t ∈ texts, Silent t) :
    changeOfRecords texts = .ok none := by
  rw [← List.append_nil texts, changeOfRecords_append h]
  rfl

theorem changeOfRecords_append_of_decides (h : ∃ t ∈ texts, ¬Silent t) (after : List String) :
    changeOfRecords (texts ++ after) = changeOfRecords texts := by
  rcases silent_or_first texts with hall | ⟨before, text, rest, rfl, hbefore, htext⟩
  · obtain ⟨t, ht, hnot⟩ := h
    exact absurd (hall t ht) hnot
  · rw [List.append_assoc, List.cons_append, changeOfRecords_append hbefore,
      changeOfRecords_append hbefore, changeOfRecords_cons_of_not_silent htext,
      changeOfRecords_cons_of_not_silent htext]

/-- `texts'` arises from `texts` by adding records: silent ones anywhere, and any records behind one
that is not silent. -/
inductive Padded (texts : List String) : List String → Prop where
  | same : Padded texts texts
  | silent {before after : List String} {text : String} (h : Padded texts (before ++ after))
    (htext : Silent text) : Padded texts (before ++ text :: after)
  | behind {before after : List String} {text : String} (h : Padded texts (before ++ after))
    (hbefore : ∃ t ∈ before, ¬Silent t) : Padded texts (before ++ text :: after)

theorem Padded.subset (h : Padded texts texts') : texts ⊆ texts' := by
  have hadd : ∀ (before after : List String) (text : String),
      before ++ after ⊆ before ++ text :: after := fun before after text =>
    ((List.sublist_cons_self text after).append_left before).subset
  induction h with
  | same => exact List.Subset.refl _
  | silent _ _ ih => exact List.Subset.trans ih (hadd _ _ _)
  | behind _ _ ih => exact List.Subset.trans ih (hadd _ _ _)

/-- Padding does not change what the records decide. -/
theorem Padded.changeOfRecords_eq (h : Padded texts texts') :
    changeOfRecords texts' = changeOfRecords texts := by
  induction h with
  | same => rfl
  | @silent before after text _ htext ih =>
    rw [← ih]
    rcases silent_or_first before with hbefore | ⟨b, t, c, rfl, hb, ht⟩
    · rw [changeOfRecords_append hbefore, changeOfRecords_append hbefore, changeOfRecords_cons,
        show changeId text = .ok none from htext]
    · have hdecides : ∃ s ∈ b ++ t :: c, ¬Silent s := ⟨t, by simp, ht⟩
      rw [changeOfRecords_append_of_decides hdecides, changeOfRecords_append_of_decides hdecides]
  | behind _ hbefore ih =>
    rw [← ih, changeOfRecords_append_of_decides hbefore, changeOfRecords_append_of_decides hbefore]

/-! ## The name to ask for -/

/-- There is room for `_psl` and its dot in front of a domain of up to 248 octets. -/
theorem nameFor_cases (domain : Name) :
    248 < domain.text.utf8ByteSize ∧ Query.nameFor domain = .error .longName ∨
    domain.text.utf8ByteSize ≤ 248 ∧
      ∃ name, Query.nameFor domain = .ok name ∧ name.text = "_psl." ++ domain.text := by
  have hsize : (Query.pslLabel.text ++ "." ++ domain.text).utf8ByteSize =
      5 + domain.text.utf8ByteSize := String.utf8ByteSize_append
  rcases Nat.lt_or_ge 248 domain.text.utf8ByteSize with hlong | hshort
  · have hnone : Name.maxSize < (Query.pslLabel.text ++ "." ++ domain.text).utf8ByteSize := by
      rw [hsize, Name.maxSize]
      omega
    exact .inl ⟨hlong, Name.child_eq_longName hnone⟩
  · have hroom : (Query.pslLabel.text ++ "." ++ domain.text).utf8ByteSize ≤ Name.maxSize := by
      rw [hsize, Name.maxSize]
      omega
    obtain ⟨name, hname⟩ := Name.exists_child_iff.mpr hroom
    exact .inr ⟨hshort, name, hname, Query.nameFor_eq_ok_iff.mp hname⟩

theorem lookupChange_of_nameFor_error {e : NameError} (h : Query.nameFor domain = .error e) :
    lookupChange resolver timeout domain = .error (.name e) := by
  rw [lookupChange, Query.about, h]
  rfl

/-! ## The reply -/

/-- No answer comes, or none within the timeout. -/
def Reply.Late (reply : Reply) (timeout : Nat) : Prop := ∀ d, reply.delay = some d → timeout < d

/-- What a reply comes to, the first case that applies. A resolver may fail with an error of any
kind, also with one that lookups have themselves. -/
inductive Reply.Gives (reply : Reply) (timeout : Nat) :
    Except LookupError (Option ChangeId) → Prop where
  | late (hlate : reply.Late timeout) : reply.Gives timeout (.error .timeout)
  | failed {e : LookupError} (htime : ¬reply.Late timeout) (hanswer : reply.answer = .error e) :
    reply.Gives timeout (.error e)
  | noRecords (htime : ¬reply.Late timeout) (hanswer : reply.answer = .ok []) :
    reply.Gives timeout (.error .noRecords)
  | silent {texts : List String} (htime : ¬reply.Late timeout) (hanswer : reply.answer = .ok texts)
    (hne : texts ≠ []) (hsilent : ∀ t ∈ texts, Silent t) : reply.Gives timeout (.ok none)
  | decided {before after : List String} {text : String}
    {result : Except LookupError (Option ChangeId)} (htime : ¬reply.Late timeout)
    (hanswer : reply.answer = .ok (before ++ text :: after)) (hbefore : ∀ t ∈ before, Silent t)
    (htext : ¬Silent text) (hresult : changeId text = result) : reply.Gives timeout result

section Reply

variable {reply : Reply}

theorem Reply.not_late_iff : ¬reply.Late timeout ↔ ∃ d, reply.delay = some d ∧ d ≤ timeout := by
  simp [Reply.Late]

theorem Query.answer_of_late (h : reply.Late timeout) :
    (ofReply timeout name reply).answer = .error .timeout := by
  unfold ofReply
  split
  · next d hd => rw [if_neg (Nat.not_le.mpr (h d hd))]
  · rfl

theorem Query.answer_of_not_late (h : ¬reply.Late timeout) :
    (ofReply timeout name reply).answer = reply.answer := by
  obtain ⟨d, hd, hle⟩ := Reply.not_late_iff.mp h
  rw [ofReply, hd]
  exact congrArg Query.answer (if_pos hle)

theorem Query.change_of_records {q : Query} (h : q.answer = .ok texts) (hne : texts ≠ []) :
    q.change = changeOfRecords texts := by
  rw [change, h]
  cases texts with
  | nil => exact absurd rfl hne
  | cons text texts => rfl

theorem Query.change_of_gives {result : Except LookupError (Option ChangeId)}
    (h : reply.Gives timeout result) : (ofReply timeout name reply).change = result := by
  cases h with
  | late hlate => rw [change, answer_of_late hlate]
  | failed htime hanswer => rw [change, answer_of_not_late htime, hanswer]
  | noRecords htime hanswer => rw [change, answer_of_not_late htime, hanswer]
  | silent htime hanswer hne hsilent =>
    rw [change_of_records ((answer_of_not_late htime).trans hanswer) hne,
      changeOfRecords_of_silent hsilent]
  | @decided before after text _ htime hanswer hbefore htext hresult =>
    have hne : before ++ text :: after ≠ [] := by simp
    rw [change_of_records ((answer_of_not_late htime).trans hanswer) hne,
      changeOfRecords_append hbefore, changeOfRecords_cons_of_not_silent htext, hresult]

theorem Reply.exists_gives (reply : Reply) (timeout : Nat) : ∃ r, reply.Gives timeout r := by
  by_cases htime : reply.Late timeout
  · exact ⟨_, .late htime⟩
  cases hanswer : reply.answer with
  | error e => exact ⟨_, .failed htime hanswer⟩
  | ok texts =>
    by_cases hne : texts = []
    · subst hne
      exact ⟨_, .noRecords htime hanswer⟩
    rcases silent_or_first texts with hsilent | ⟨before, text, after, rfl, hbefore, htext⟩
    · exact ⟨_, .silent htime hanswer hne hsilent⟩
    · exact ⟨_, .decided htime hanswer hbefore htext rfl⟩

theorem ChangeUrl.eq_badChangeId_of_changeId {text : String} {e : LookupError}
    (h : changeId text = .error e) : ∃ digits, e = .badChangeId digits := by
  unfold changeId at h
  split at h
  · cases h
  · split at h <;> cases h
    exact ⟨_, rfl⟩

theorem Reply.gives_timeout_iff : reply.Gives timeout (.error .timeout) ↔
    reply.Late timeout ∨ reply.answer = .error .timeout := by
  constructor
  · rintro (hlate | ⟨-, hanswer⟩ | _ | _ | ⟨-, -, -, -, hresult⟩)
    · exact .inl hlate
    · exact .inr hanswer
    · obtain ⟨_, h⟩ := eq_badChangeId_of_changeId hresult
      cases h
  · intro h
    by_cases hlate : reply.Late timeout
    · exact .late hlate
    · exact .failed hlate (h.resolve_left hlate)

theorem Reply.gives_noRecords_iff : reply.Gives timeout (.error .noRecords) ↔
    ¬reply.Late timeout ∧ (reply.answer = .ok [] ∨ reply.answer = .error .noRecords) := by
  constructor
  · rintro (_ | ⟨htime, hanswer⟩ | ⟨htime, hanswer⟩ | _ | ⟨-, -, -, -, hresult⟩)
    · exact ⟨htime, .inr hanswer⟩
    · exact ⟨htime, .inl hanswer⟩
    · obtain ⟨_, h⟩ := eq_badChangeId_of_changeId hresult
      cases h
  · rintro ⟨htime, hanswer | hanswer⟩
    · exact .noRecords htime hanswer
    · exact .failed htime hanswer

/-- The change of a query is what the reply comes to. -/
theorem Query.change_eq_iff_gives {result : Except LookupError (Option ChangeId)} :
    (ofReply timeout name reply).change = result ↔ reply.Gives timeout result := by
  constructor
  · rintro rfl
    obtain ⟨r, hr⟩ := reply.exists_gives timeout
    rwa [change_of_gives hr]
  · exact change_of_gives

end Reply

/-! ## Lookups -/

/-- The name that a lookup asks for, unless there is none. -/
def asked? (resolver : Resolver) (timeout : Nat) (domain : Name) : Option Name :=
  (Query.about resolver timeout domain).toOption.map Query.name

/-- What comes of a lookup: the name asked for, and the result. -/
inductive Outcome (resolver : Resolver) (timeout : Nat) (domain : Name) :
    Option Name → Except LookupError (Option ChangeId) → Prop where
  | noName (hsize : 248 < domain.text.utf8ByteSize) :
    Outcome resolver timeout domain none (.error (.name .longName))
  | asked {name : Name} {result : Except LookupError (Option ChangeId)}
    (hsize : domain.text.utf8ByteSize ≤ 248) (hname : name.text = "_psl." ++ domain.text)
    (hresult : (resolver name).Gives timeout result) :
    Outcome resolver timeout domain (some name) result

theorem asked?_of_nameFor (h : Query.nameFor domain = .ok name) :
    asked? resolver timeout domain = some name := by
  rw [asked?, Query.about, h]
  exact congrArg some (Query.name_ofReply _ _ _)

theorem outcome_iff {asked : Option Name} {result : Except LookupError (Option ChangeId)} :
    asked? resolver timeout domain = asked ∧ lookupChange resolver timeout domain = result ↔
      Outcome resolver timeout domain asked result := by
  rcases nameFor_cases domain with ⟨hsize, hnone⟩ | ⟨hsize, name, hname, htext⟩
  · have hasked : asked? resolver timeout domain = none := by
      rw [asked?, Query.about, hnone]
      rfl
    rw [hasked, lookupChange_of_nameFor_error hnone]
    constructor
    · rintro ⟨rfl, rfl⟩
      exact .noName hsize
    · rintro (_ | ⟨hshort, _, _⟩)
      · exact ⟨rfl, rfl⟩
      · omega
  · rw [asked?_of_nameFor hname, lookupChange_of_nameFor hname, Query.change_eq_iff_gives]
    constructor
    · rintro ⟨rfl, hresult⟩
      exact .asked hsize htext hresult
    · rintro (hlong | ⟨-, hother, hresult⟩)
      · omega
      · obtain rfl := Name.text_injective (htext.trans hother.symm)
        exact ⟨rfl, hresult⟩

/-- The resolver is asked at one name at most. -/
theorem lookupChange_congr {other : Resolver}
    (h : ∀ name, name.text = "_psl." ++ domain.text → other name = resolver name) :
    lookupChange other timeout domain = lookupChange resolver timeout domain := by
  rcases nameFor_cases domain with ⟨-, hnone⟩ | ⟨-, name, hname, htext⟩
  · rw [lookupChange_of_nameFor_error hnone, lookupChange_of_nameFor_error hnone]
  · rw [lookupChange_of_nameFor hname, lookupChange_of_nameFor hname, h name htext]

theorem lookupChange_of_delivers (hname : name.text = "_psl." ++ domain.text)
    (h : (resolver name).Delivers timeout texts) (hne : texts ≠ []) :
    lookupChange resolver timeout domain = changeOfRecords texts := by
  rw [lookupChange_of_nameFor (Query.nameFor_eq_ok_iff.mpr hname)]
  exact Query.change_of_records (Query.answer_ofReply.mpr h) hne

theorem lookupChange_eq_iff_gives {result : Except LookupError (Option ChangeId)}
    (hname : name.text = "_psl." ++ domain.text) :
    lookupChange resolver timeout domain = result ↔ (resolver name).Gives timeout result := by
  rw [lookupChange_of_nameFor (Query.nameFor_eq_ok_iff.mpr hname), Query.change_eq_iff_gives]

/-- **What comes of a lookup**, with the name asked for. A lookup asks for nothing exactly if its
domain is too long. The reply at the one name decides. It comes to a timeout exactly if it is late,
and to the lack of records exactly if there are none, a resolver apart that fails for this very
reason. A result that some record decides stands however the records are padded. -/
theorem lookup_outcome (resolver : Resolver) (timeout : Nat) (domain : Name) :
    (∀ asked result, asked? resolver timeout domain = asked ∧
      lookupChange resolver timeout domain = result ↔
        Outcome resolver timeout domain asked result) ∧
    (asked? resolver timeout domain = none ∧
      lookupChange resolver timeout domain = .error (.name .longName) ↔
        248 < domain.text.utf8ByteSize) ∧
    (∀ other : Resolver, (∀ name, name.text = "_psl." ++ domain.text → other name = resolver name) →
      lookupChange other timeout domain = lookupChange resolver timeout domain) ∧
    ∀ name : Name, name.text = "_psl." ++ domain.text →
      (lookupChange resolver timeout domain = .error .timeout ↔
        (resolver name).Late timeout ∨ (resolver name).answer = .error .timeout) ∧
      (lookupChange resolver timeout domain = .error .noRecords ↔
        ¬(resolver name).Late timeout ∧
          ((resolver name).answer = .ok [] ∨ (resolver name).answer = .error .noRecords)) ∧
      ∀ (other : Resolver) (texts texts' : List String), (resolver name).Delivers timeout texts →
        (other name).Delivers timeout texts' → (∃ t ∈ texts, ¬Silent t) → Padded texts texts' →
        lookupChange other timeout domain = lookupChange resolver timeout domain := by
  refine ⟨fun asked result => outcome_iff, ?_, fun other h => lookupChange_congr h, ?_⟩
  · rw [outcome_iff]
    constructor
    · rintro (hsize | _)
      exact hsize
    · exact .noName
  · intro name hname
    refine ⟨?_, ?_, fun other texts texts' htexts htexts' ⟨t, ht, _⟩ hpadded => ?_⟩
    · rw [lookupChange_eq_iff_gives hname, Reply.gives_timeout_iff]
    · rw [lookupChange_eq_iff_gives hname, Reply.gives_noRecords_iff]
    · have hne : texts ≠ [] := List.ne_nil_of_mem ht
      have hne' : texts' ≠ [] := List.ne_nil_of_mem (hpadded.subset ht)
      rw [lookupChange_of_delivers hname htexts hne, lookupChange_of_delivers hname htexts' hne',
        hpadded.changeOfRecords_eq]

/-- The name at which the records of `cafe` are. -/
def pslCafeName : Name where
  labels := Query.pslLabel :: Name.cafeName.labels
  nonempty := by decide
  size_le := by decide

/-- The resolver that has the same records at every name, just at the timeout of 3. -/
def recordsEverywhere (texts : List String) : Resolver := fun _ => ⟨some 3, .ok texts⟩

/-- The first change URL decides, also between further records. -/
theorem lookup_outcome_cafe :
    Padded ["v=spf1", "https://a/1/17"] ["v=spf1", "hello", "https://a/1/17", "https://a/1/18"] ∧
    asked? (recordsEverywhere ["v=spf1", "https://a/1/17"]) 3 Name.cafeName = some pslCafeName ∧
    lookupChange (recordsEverywhere ["v=spf1", "https://a/1/17"]) 3 Name.cafeName =
      .ok (some 17) ∧
    lookupChange (recordsEverywhere ["v=spf1", "hello", "https://a/1/17", "https://a/1/18"]) 3
      Name.cafeName = .ok (some 17) := by
  have hname : pslCafeName.text = "_psl." ++ Name.cafeName.text := by decide
  have htime : ¬(recordsEverywhere ["v=spf1", "https://a/1/17"] pslCafeName).Late 3 :=
    Reply.not_late_iff.mpr ⟨3, rfl, Nat.le_refl 3⟩
  have hsilent : Silent "v=spf1" ∧ Silent "hello" := by decide
  have hdecides : ¬Silent "https://a/1/17" := by decide
  have hone : Padded ["v=spf1", "https://a/1/17"] (["v=spf1"] ++ "hello" :: ["https://a/1/17"]) :=
    .silent .same hsilent.2
  have hpadded : Padded ["v=spf1", "https://a/1/17"]
      (["v=spf1", "hello", "https://a/1/17"] ++ "https://a/1/18" :: []) :=
    .behind hone ⟨"https://a/1/17", by simp, hdecides⟩
  have hanswer : (recordsEverywhere ["v=spf1", "https://a/1/17"] pslCafeName).answer =
      .ok (["v=spf1"] ++ "https://a/1/17" :: []) := rfl
  obtain ⟨houtcome, -, -, hasked⟩ :=
    lookup_outcome (recordsEverywhere ["v=spf1", "https://a/1/17"]) 3 Name.cafeName
  obtain ⟨-, -, hpadding⟩ := hasked pslCafeName hname
  have hfirst := (houtcome (some pslCafeName) (.ok (some 17))).mpr (.asked (by decide) hname
    (.decided htime hanswer (by simpa using hsilent.1) hdecides (by decide)))
  refine ⟨hpadded, hfirst.1, hfirst.2, ?_⟩
  rw [← hfirst.2]
  exact hpadding _ _ _ ⟨⟨3, rfl, Nat.le_refl 3⟩, rfl⟩ ⟨⟨3, rfl, Nat.le_refl 3⟩, rfl⟩
    ⟨_, by simp, hdecides⟩ hpadded

end PublicSuffix
