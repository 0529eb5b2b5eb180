import PublicSuffix.Proofs.Document.Records
import PublicSuffix.Proofs.Domain.Canonical
import Mathlib.Data.List.Forall2

/-!
# The spellings of a list

The same list can be written as JSON in many ways: its records as objects or as arrays, with the
fields in any order and unknown ones among them, the null fields of maintainers left out, domains
with capitals or a root dot. `ofJson_of_spelled`: whatever spells a list is read as that list. The
encoding is one of its spellings (`SuffixList.spelled_toJson`), so nothing is lost when a list is
written and read again, and what is written the second time is what was written the first time.
-/

namespace PublicSuffix

/-! ## What spells a list -/

/-- `j` spells a domain: its text, but for capitals and a root dot. -/
def Name.Spelled (n : Name) (j : Json) : Prop :=
  ∃ s t, j = .string s ∧ (s = t ∨ s = t ++ ".") ∧ t.toLower = n.text

def LineRange.Spelled (r : LineRange) (j : Json) : Prop :=
  Json.Record false [("first_line", .natural r.first.toNat),
    ("last_line", .natural r.last.toNat)] j

/-- `j` spells a maintainer. Its null fields may be missing. -/
def Maintainer.Spelled (m : Maintainer) (j : Json) : Prop :=
  Json.Record true [("name", .ofOptionalString m.name), ("email", .ofOptionalString m.email),
    ("github", .ofOptionalString m.github)] j

def EntityInfo.Spelled (i : EntityInfo) (j : Json) : Prop :=
  ∃ maintainers, List.Forall₂ Maintainer.Spelled i.maintainers maintainers ∧
    Json.Record false [("name", .string i.name), ("urls", .ofStrings i.urls),
      ("maintainers", .array maintainers), ("other", .ofStrings i.other)] j

/-- `j` spells the record of a group whose blocks are spelled by `blocks`. -/
def Heading.Spelled (blocks : List Json) : Heading → Json → Prop
  | .ofSection s, j => ∃ lines, s.lines.Spelled lines ∧
    Json.Record false [("name", .string s.name), ("source_range", lines),
      ("blocks", .array blocks), ("changed", .bool s.changed)] j
  | .ofEntity e, j => ∃ info lines, e.info.Spelled info ∧ e.lines.Spelled lines ∧
    Json.Record false [("info", info), ("source_range", lines), ("blocks", .array blocks),
      ("changed", .bool e.changed)] j

/-- `j` spells the record of an entry. -/
def Entry.Spelled : Entry → Json → Prop
  | .ofSuffix s, j => ∃ domain lines, s.domain.Spelled domain ∧ s.lines.Spelled lines ∧
    Json.Record false [("domain", domain), ("source_range", lines), ("changed", .bool s.changed)] j
  | .ofWildcard w, j => ∃ domain lines, w.domain.Spelled domain ∧ w.lines.Spelled lines ∧
    Json.Record false [("domain", domain), ("exceptions", .ofStrings w.exceptions),
      ("source_range", lines), ("changed", .bool w.changed)] j
  | .ofComment c, j => ∃ lines, c.lines.Spelled lines ∧
    Json.Record false [("text", .ofStrings c.text), ("source_range", lines),
      ("changed", .bool c.changed)] j

mutual

/-- What spells a block: an object with one field, which tells what the block is. -/
inductive Block.Spelled : Block → Json → Prop where
  | group {h : Heading} {bs : List Block} {blocks : List Json} {record : Json}
    (hblocks : Block.SpelledAll bs blocks) (hrecord : h.Spelled blocks record) :
    Block.Spelled (.group h bs) (.object [(h.tag, record)])
  | entry {e : Entry} {record : Json} (hrecord : e.Spelled record) :
    Block.Spelled (.entry e) (.object [(e.tag, record)])

/-- What spells blocks, one by one. -/
inductive Block.SpelledAll : List Block → List Json → Prop where
  | nil : Block.SpelledAll [] []
  | cons {b : Block} {bs : List Block} {j : Json} {items : List Json} (hb : b.Spelled j)
    (hbs : Block.SpelledAll bs items) : Block.SpelledAll (b :: bs) (j :: items)

end

/-- `j` spells a list. -/
def SuffixList.Spelled (l : SuffixList) (j : Json) : Prop :=
  ∃ blocks, Block.SpelledAll l.blocks blocks ∧ Json.Record false [("blocks", .array blocks)] j

/-! ## The encoding -/

theorem Name.spelled_text (n : Name) : n.Spelled (.string n.text) :=
  ⟨n.text, n.text, rfl, .inl rfl, n.toLower_text⟩

theorem LineRange.spelled_toJson (r : LineRange) : r.Spelled r.toJson :=
  Json.record_object _ _

theorem Maintainer.spelled_toJson (m : Maintainer) : m.Spelled m.toJson :=
  Json.record_object _ _

theorem EntityInfo.spelled_toJson (i : EntityInfo) : i.Spelled i.toJson := by
  refine ⟨i.maintainers.map Maintainer.toJson, ?_, Json.record_object _ _⟩
  rw [List.forall₂_map_right_iff, List.forall₂_same]
  exact fun m _ => m.spelled_toJson

theorem Heading.spelled_toJson (blocks : List Json) :
    (h : Heading) → h.Spelled blocks (h.toJson blocks)
  | .ofSection s => ⟨_, s.lines.spelled_toJson, Json.record_object _ _⟩
  | .ofEntity e => ⟨_, _, e.info.spelled_toJson, e.lines.spelled_toJson, Json.record_object _ _⟩

theorem Entry.spelled_toJson : (e : Entry) → e.Spelled e.toJson
  | .ofSuffix s => ⟨_, _, s.domain.spelled_text, s.lines.spelled_toJson, Json.record_object _ _⟩
  | .ofWildcard w => ⟨_, _, w.domain.spelled_text, w.lines.spelled_toJson, Json.record_object _ _⟩
  | .ofComment c => ⟨_, c.lines.spelled_toJson, Json.record_object _ _⟩

mutual

theorem Block.spelled_toJson : (b : Block) → b.Spelled b.toJson
  | .group h bs => .group (Block.spelledAll_toJsonAll bs) (h.spelled_toJson _)
  | .entry e => .entry e.spelled_toJson

theorem Block.spelledAll_toJsonAll : (bs : List Block) → Block.SpelledAll bs (Block.toJsonAll bs)
  | [] => .nil
  | b :: bs => .cons b.spelled_toJson (Block.spelledAll_toJsonAll bs)

end

theorem SuffixList.spelled_toJson (l : SuffixList) : l.Spelled l.toJson :=
  ⟨_, Block.spelledAll_toJsonAll l.blocks, Json.record_object _ _⟩

/-! ## Reading a spelling -/

theorem ok_bind {α β : Type} (a : α) (f : α → Except DecodeError β) : (Except.ok a >>= f) = f a :=
  rfl

theorem Name.ofField_eq {given : List (String × Json)} {n : Name} {j : Json}
    (h : Json.Found false given ("domain", j)) (hn : n.Spelled j) :
    Name.ofField given = .ok n := by
  obtain ⟨s, t, rfl, hs, ht⟩ := hn
  have hread : Name.ofText s = .ok n :=
    (Name.ofText_eq_ok_iff (Name.unrooted_of_toLower hs ht)).mpr ht
  simp only [Name.ofField, Json.field_eq h (Json.string?_string s), ok_bind, hread]
  rfl

theorem LineRange.ofJson_eq {r : LineRange} {j : Json} (h : r.Spelled j) :
    LineRange.ofJson j = .ok r := by
  obtain ⟨given, hgiven, hfound⟩ := h.exists_fields ["first_line", "last_line"] rfl (by decide)
  simp only [List.forall_mem_cons] at hfound
  obtain ⟨hfirst, hlast, -⟩ := hfound
  simp only [LineRange.ofJson, hgiven, Json.field_eq hfirst (Json.line?_natural _),
    Json.field_eq hlast (Json.line?_natural _), ok_bind]
  rfl

theorem LineRange.ofField_eq {given : List (String × Json)} {r : LineRange} {j : Json}
    (h : Json.Found false given ("source_range", j)) (hr : r.Spelled j) :
    LineRange.ofField given = .ok r := by
  simp only [LineRange.ofField, Json.field_some_eq h, ok_bind, LineRange.ofJson_eq hr]

theorem Maintainer.ofJson_eq {m : Maintainer} {j : Json} (h : m.Spelled j) :
    Maintainer.ofJson j = .ok m := by
  obtain ⟨given, hgiven, hfound⟩ := h.exists_fields ["name", "email", "github"] rfl (by decide)
  simp only [List.forall_mem_cons] at hfound
  obtain ⟨hname, hemail, hgithub, -⟩ := hfound
  simp only [Maintainer.ofJson, hgiven, Json.optionalField_eq hname, Json.optionalField_eq hemail,
    Json.optionalField_eq hgithub, ok_bind]
  rfl

theorem Maintainer.mapM_ofJson_eq {ms : List Maintainer} {items : List Json}
    (h : List.Forall₂ Maintainer.Spelled ms items) : items.mapM Maintainer.ofJson = .ok ms := by
  induction h with
  | nil => rfl
  | cons hm _ ih =>
    rw [List.mapM_cons, Maintainer.ofJson_eq hm, ih]
    rfl

theorem EntityInfo.ofJson_eq {i : EntityInfo} {j : Json} (h : i.Spelled j) :
    EntityInfo.ofJson j = .ok i := by
  obtain ⟨maintainers, hmaintainers, h⟩ := h
  obtain ⟨given, hgiven, hfound⟩ :=
    h.exists_fields ["name", "urls", "maintainers", "other"] rfl (by decide)
  simp only [List.forall_mem_cons] at hfound
  obtain ⟨hname, hurls, hitems, hother, -⟩ := hfound
  simp only [EntityInfo.ofJson, hgiven, Json.field_eq hname (Json.string?_string _),
    Json.field_eq hurls (Json.strings?_ofStrings _), Json.field_eq hitems (Json.items?_array _),
    Json.field_eq hother (Json.strings?_ofStrings _), Maintainer.mapM_ofJson_eq hmaintainers,
    ok_bind]
  rfl

/-- The fields of a section's record, apart from its blocks. -/
theorem Section.ofJson_eq {s : Section} {lines blocks j : Json} (hlines : s.lines.Spelled lines)
    (h : Json.Record false [("name", .string s.name), ("source_range", lines), ("blocks", blocks),
      ("changed", .bool s.changed)] j) : Section.ofJson j = .ok s := by
  obtain ⟨given, hgiven, hfound⟩ :=
    h.exists_fields ["name", "source_range", "blocks", "changed"] rfl (by decide)
  simp only [List.forall_mem_cons] at hfound
  obtain ⟨hname, hrange, -, hchanged, -⟩ := hfound
  simp only [Section.ofJson, hgiven, Json.field_eq hname (Json.string?_string _),
    LineRange.ofField_eq hrange hlines, Json.field_eq hchanged (Json.bool?_bool _), ok_bind]
  rfl

/-- The fields of an entity's record, apart from its blocks. -/
theorem Entity.ofJson_eq {e : Entity} {info lines blocks j : Json} (hinfo : e.info.Spelled info)
    (hlines : e.lines.Spelled lines)
    (h : Json.Record false [("info", info), ("source_range", lines), ("blocks", blocks),
      ("changed", .bool e.changed)] j) : Entity.ofJson j = .ok e := by
  obtain ⟨given, hgiven, hfound⟩ :=
    h.exists_fields ["info", "source_range", "blocks", "changed"] rfl (by decide)
  simp only [List.forall_mem_cons] at hfound
  obtain ⟨hfield, hrange, -, hchanged, -⟩ := hfound
  simp only [Entity.ofJson, hgiven, Json.field_some_eq hfield,
    EntityInfo.ofJson_eq hinfo, LineRange.ofField_eq hrange hlines,
    Json.field_eq hchanged (Json.bool?_bool _), ok_bind]
  rfl

theorem Suffix.ofJson_eq {s : Suffix} {j : Json} (h : (Entry.ofSuffix s).Spelled j) :
    Suffix.ofJson j = .ok s := by
  obtain ⟨domain, lines, hdomain, hlines, h⟩ := h
  obtain ⟨given, hgiven, hfound⟩ :=
    h.exists_fields ["domain", "source_range", "changed"] rfl (by decide)
  simp only [List.forall_mem_cons] at hfound
  obtain ⟨hname, hrange, hchanged, -⟩ := hfound
  simp only [Suffix.ofJson, hgiven, Name.ofField_eq hname hdomain,
    LineRange.ofField_eq hrange hlines, Json.field_eq hchanged (Json.bool?_bool _), ok_bind]
  rfl

theorem Wildcard.ofJson_eq {w : Wildcard} {j : Json} (h : (Entry.ofWildcard w).Spelled j) :
    Wildcard.ofJson j = .ok w := by
  obtain ⟨domain, lines, hdomain, hlines, h⟩ := h
  obtain ⟨given, hgiven, hfound⟩ :=
    h.exists_fields ["domain", "exceptions", "source_range", "changed"] rfl (by decide)
  simp only [List.forall_mem_cons] at hfound
  obtain ⟨hname, hexceptions, hrange, hchanged, -⟩ := hfound
  simp only [Wildcard.ofJson, hgiven, Name.ofField_eq hname hdomain,
    Json.field_eq hexceptions (Json.strings?_ofStrings _), LineRange.ofField_eq hrange hlines,
    Json.field_eq hchanged (Json.bool?_bool _), ok_bind]
  rfl

theorem Comment.ofJson_eq {c : Comment} {j : Json} (h : (Entry.ofComment c).Spelled j) :
    Comment.ofJson j = .ok c := by
  obtain ⟨lines, hlines, h⟩ := h
  obtain ⟨given, hgiven, hfound⟩ :=
    h.exists_fields ["text", "source_range", "changed"] rfl (by decide)
  simp only [List.forall_mem_cons] at hfound
  obtain ⟨htext, hrange, hchanged, -⟩ := hfound
  simp only [Comment.ofJson, hgiven, Json.field_eq htext (Json.strings?_ofStrings _),
    LineRange.ofField_eq hrange hlines, Json.field_eq hchanged (Json.bool?_bool _), ok_bind]
  rfl

/-! ## Reading blocks -/

theorem Block.ofField_eq {given : List (String × Json)} {j : Json}
    (honce : Json.givesOnce ["blocks"] given = true) (h : given.lookup "blocks" = some j) :
    Block.ofField given = Block.ofArray j := by
  induction given with
  | nil => cases h
  | cons f fs ih =>
    obtain ⟨name, k⟩ := f
    rw [Block.ofField, if_pos honce]
    split
    · next hname =>
      rw [List.lookup_cons, beq_false_of_ne hname.symm] at h
      rw [Json.givesOnce_iff, List.forall_mem_singleton, List.map_cons,
        List.count_cons_of_ne hname] at honce
      exact ih (Json.givesOnce_iff.mpr (List.forall_mem_singleton.mpr honce)) h
    · next hname =>
      obtain rfl := not_ne_iff.mp hname
      rw [List.lookup_cons_self] at h
      rw [Option.some.inj h]

/-- Blocks that are given twice are not read at all. -/
theorem Block.ofField_eq_error {given : List (String × Json)}
    (h : 1 < (given.map Prod.fst).count "blocks") : Block.ofField given = .error .shape := by
  induction given with
  | nil => rw [Block.ofField]
  | cons f fs ih =>
    obtain ⟨name, k⟩ := f
    have honce : ¬Json.givesOnce ["blocks"] ((name, k) :: fs) = true := by
      rw [Json.givesOnce_iff, List.forall_mem_singleton]
      exact Nat.not_le.mpr h
    rw [Block.ofField]
    simp only [if_neg honce]
    split
    · next hname =>
      rw [List.map_cons, List.count_cons_of_ne hname] at h
      exact ih h
    · rfl

/-- The blocks of a group are read from the third field of its record. -/
theorem Block.ofRecord_eq {first second : String} {j k blocks changed record : Json}
    (hnames : [first, second, "blocks", "changed"].Nodup)
    (h : Json.Record false [(first, j), (second, k), ("blocks", blocks), ("changed", changed)]
      record) : Block.ofRecord record = Block.ofArray blocks := by
  rcases h.array_or_object [first, second, "blocks", "changed"] rfl hnames with
    rfl | ⟨given, rfl, honce, hfound⟩
  · rw [List.map_cons, List.map_cons, List.map_cons, List.map_cons, List.map_nil, Block.ofRecord]
  · simp only [List.forall_mem_cons] at hfound
    have hblocks : Json.givesOnce ["blocks"] given = true :=
      Json.givesOnce_of_subset honce (by simp)
    rw [Block.ofRecord, Block.ofField_eq hblocks hfound.2.2.1.lookup_eq]

mutual

theorem Block.ofJson_eq {b : Block} {j : Json} : b.Spelled j → Block.ofJson j = .ok b
  | .group (h := .ofSection s) hblocks ⟨lines, hlines, hrecord⟩ => by
    rw [Heading.tag, Block.ofJson, Section.ofJson_eq hlines hrecord, ok_bind,
      Block.ofRecord_eq (by decide) hrecord, Block.ofArray, Block.ofItems_eq hblocks]
    rfl
  | .group (h := .ofEntity e) hblocks ⟨info, lines, hinfo, hlines, hrecord⟩ => by
    rw [Heading.tag, Block.ofJson, Entity.ofJson_eq hinfo hlines hrecord, ok_bind,
      Block.ofRecord_eq (by decide) hrecord, Block.ofArray, Block.ofItems_eq hblocks]
    rfl
  | .entry (e := .ofSuffix s) hrecord => by
    rw [Entry.tag, Block.ofJson, Suffix.ofJson_eq hrecord]
    rfl
  | .entry (e := .ofWildcard w) hrecord => by
    rw [Entry.tag, Block.ofJson, Wildcard.ofJson_eq hrecord]
    rfl
  | .entry (e := .ofComment c) hrecord => by
    rw [Entry.tag, Block.ofJson, Comment.ofJson_eq hrecord]
    rfl

theorem Block.ofItems_eq {bs : List Block} {items : List Json} :
    Block.SpelledAll bs items → Block.ofItems items = .ok bs
  | .nil => by rw [Block.ofItems]
  | .cons hb hbs => by
    rw [Block.ofItems, Block.ofJson_eq hb, ok_bind, Block.ofItems_eq hbs]
    rfl

end

theorem SuffixList.ofJson_eq {l : SuffixList} {j : Json} (h : l.Spelled j) :
    SuffixList.ofJson j = .ok l := by
  obtain ⟨blocks, hblocks, h⟩ := h
  have hread : Block.ofArray (.array blocks) = .ok l.blocks := by
    rw [Block.ofArray, Block.ofItems_eq hblocks]
  rcases h.array_or_object ["blocks"] rfl (by decide) with rfl | ⟨given, rfl, honce, hfound⟩
  · rw [List.map_singleton, SuffixList.ofJson, hread]
    rfl
  · simp only [List.forall_mem_cons] at hfound
    rw [SuffixList.ofJson, Block.ofField_eq honce hfound.1.lookup_eq, hread]
    rfl

/-- **Whatever spells a list is read as that list**, and so is its encoding. A value that is read as
a list can be replaced by the encoding of the list, which is read as the same list and, written
again, does not change any more. -/
theorem SuffixList.ofJson_of_spelled :
    (∀ l : SuffixList, l.Spelled l.toJson ∧ SuffixList.ofJson l.toJson = .ok l) ∧
    (∀ (l : SuffixList) (j : Json), l.Spelled j → SuffixList.ofJson j = .ok l) ∧
    ∀ (j : Json) (l : SuffixList), SuffixList.ofJson j = .ok l →
      ∃ k, SuffixList.ofJson l.toJson = .ok k ∧ k = l ∧ k.toJson = l.toJson :=
  ⟨fun l => ⟨l.spelled_toJson, SuffixList.ofJson_eq l.spelled_toJson⟩,
    fun _ _ h => SuffixList.ofJson_eq h,
    fun _ l _ => ⟨l, SuffixList.ofJson_eq l.spelled_toJson, rfl, rfl⟩⟩

def cafeEntity : Entity where
  info := { name := "Cafe", maintainers := [{ email := some "cafe@example" }] }
  lines := ⟨2, 3⟩

def cafeSuffix : Suffix := { domain := Name.cafeName, lines := ⟨3, 3⟩, changed := true }

/-- An entity with a suffix. -/
def cafeList : SuffixList where
  blocks := [.group (.ofEntity cafeEntity) [.entry (.ofSuffix cafeSuffix)]]

def cafeSuffixJson : Json :=
  .object [("changed", .bool true), ("domain", .string "Cafe."),
    ("source_range", .array [.natural 3, .natural 3])]

def cafeEntityJson : Json :=
  .array [.array [.string "Cafe", .array [],
    .array [.object [("email", .string "cafe@example")]], .array []],
    .array [.natural 2, .natural 3], .array [.object [("Suffix", cafeSuffixJson)]], .bool false]

/-- The list in an unusual spelling. -/
def cafeJson : Json :=
  .object [("revision", .natural 7), ("blocks", .array [.object [("Suffixes", cafeEntityJson)]])]

theorem spelled_cafeSuffixJson : (Entry.ofSuffix cafeSuffix).Spelled cafeSuffixJson := by
  have hlower : "Cafe".toLower = "cafe" := by
    rw [← String.toList_inj, Text.toList_toLower]
    rfl
  refine ⟨_, _, ⟨"Cafe.", "Cafe", rfl, .inr (by decide), hlower⟩, .array, ?_⟩
  exact Json.record_of_perm (.trans (.swap _ _ _) (.cons _ (.swap _ _ _)))

theorem spelled_cafeMaintainer : Maintainer.Spelled { email := some "cafe@example" }
    (.object [("email", .string "cafe@example")]) :=
  .object (.cons _ (.cons_cons _ (.cons _ .slnil))) (by simp [Json.ofOptionalString])
    (fun _ hf => absurd hf List.not_mem_nil) (List.Perm.refl _)

theorem spelled_cafeEntityJson : (Heading.ofEntity cafeEntity).Spelled
    [.object [("Suffix", cafeSuffixJson)]] cafeEntityJson :=
  ⟨_, _, ⟨_, .cons spelled_cafeMaintainer .nil, .array⟩, .array, .array⟩

theorem spelled_cafeJson : cafeList.Spelled cafeJson := by
  have hblocks := Block.SpelledAll.cons (.entry spelled_cafeSuffixJson) .nil
  refine ⟨_, .cons (.group hblocks spelled_cafeEntityJson) .nil,
    .object (List.Sublist.refl _) (fun f hf hnot => absurd hf hnot) ?_
      (.swap ("blocks", _) ("revision", Json.natural 7) [])⟩
  exact List.forall_mem_singleton.mpr (by decide)

/-- Arrays for objects, fields in another order, unknown and missing ones, a capital and a root dot:
all that is read as if it were not there. -/
theorem ofJson_cafeJson : cafeList.Spelled cafeJson ∧ SuffixList.ofJson cafeJson = .ok cafeList ∧
    ∃ k, SuffixList.ofJson cafeList.toJson = .ok k ∧ k = cafeList ∧ k.toJson = cafeList.toJson := by
  have hread := SuffixList.ofJson_of_spelled.2.1 cafeList cafeJson spelled_cafeJson
  exact ⟨spelled_cafeJson, hread, SuffixList.ofJson_of_spelled.2.2 cafeJson cafeList hread⟩

end PublicSuffix
