import PublicSuffix.Document.Decode
import PublicSuffix.Document.Encode
import Mathlib.Data.List.Nodup

/-!
# Records in JSON

A record is written as an object with its fields in any order and unknown ones among them, or as the
array of the values of its fields. Where a record allows it, fields that are null may be left out of
the object. `Record.exists_fields` says what every reader of records relies on: each field is found
by its name with its value, or it was null and is not found. An object that gives a field twice is
no record (`fields?_object_eq_some_iff`).
-/

namespace PublicSuffix

namespace Json

/-- `j` spells a record with the given fields. If `omits`, those that are null may be missing. -/
inductive Record (omits : Bool) (fields : List (String × Json)) : Json → Prop where
  | array : Record omits fields (.array (fields.map Prod.snd))
  | object {kept unknown given : List (String × Json)} (hkept : kept.Sublist fields)
    (homitted : ∀ f ∈ fields, f ∉ kept → omits = true ∧ f.2 = .null)
    (hunknown : ∀ f ∈ unknown, f.1 ∉ fields.map Prod.fst)
    (hgiven : given.Perm (kept ++ unknown)) : Record omits fields (.object given)

theorem record_of_perm {omits : Bool} {fields given : List (String × Json)}
    (h : given.Perm fields) : Record omits fields (.object given) :=
  .object (List.Sublist.refl _) (fun f hf hnot => absurd hf hnot)
    (fun _ hf => absurd hf List.not_mem_nil) (by rwa [List.append_nil])

theorem record_object (omits : Bool) (fields : List (String × Json)) :
    Record omits fields (.object fields) :=
  record_of_perm (List.Perm.refl _)

/-- A field is found where no other one has its name. -/
theorem lookup_eq_some {given : List (String × Json)} {name : String} {j : Json}
    (h : (name, j) ∈ given) (honly : ∀ k, (name, k) ∈ given → k = j) :
    given.lookup name = some j := by
  induction given with
  | nil => exact absurd h List.not_mem_nil
  | cons f fs ih =>
    obtain ⟨key, k⟩ := f
    by_cases hkey : name = key
    · subst hkey
      rw [List.lookup_cons_self, honly k List.mem_cons_self]
    · rcases List.mem_cons.mp h with heq | h
      · exact absurd (congrArg Prod.fst heq) hkey
      · rw [List.lookup_cons, beq_false_of_ne hkey]
        exact ih h fun k hk => honly k (List.mem_cons_of_mem _ hk)

theorem eq_of_same_name {fields : List (String × Json)} (hnames : (fields.map Prod.fst).Nodup)
    {f g : String × Json} (hf : f ∈ fields) (hg : g ∈ fields) (h : f.1 = g.1) : f = g :=
  List.inj_on_of_nodup_map hnames hf hg h

/-- What is found in a record under the name of a field. -/
def Found (omits : Bool) (given : List (String × Json)) (f : String × Json) : Prop :=
  given.lookup f.1 = some f.2 ∨ omits = true ∧ f.2 = .null ∧ given.lookup f.1 = none

theorem found_of_perm {omits : Bool} {fields kept unknown given : List (String × Json)}
    (hnames : (fields.map Prod.fst).Nodup) (hkept : kept.Sublist fields)
    (homitted : ∀ f ∈ fields, f ∉ kept → omits = true ∧ f.2 = .null)
    (hunknown : ∀ f ∈ unknown, f.1 ∉ fields.map Prod.fst) (hgiven : given.Perm (kept ++ unknown))
    {f : String × Json} (hf : f ∈ fields) : Found omits given f := by
  -- only the field itself is given under its name
  have honly : ∀ k, (f.1, k) ∈ given → (f.1, k) ∈ kept ∧ k = f.2 := by
    intro k hk
    rcases List.mem_append.mp (hgiven.mem_iff.mp hk) with hk | hk
    · exact ⟨hk, congrArg Prod.snd (eq_of_same_name hnames (hkept.mem hk) hf rfl)⟩
    · exact absurd (List.mem_map_of_mem hf) (hunknown (f.1, k) hk)
  by_cases hmem : f ∈ kept
  · have hfound : f ∈ given := hgiven.mem_iff.mpr (List.mem_append_left _ hmem)
    exact .inl (lookup_eq_some hfound fun k hk => (honly k hk).2)
  · obtain ⟨homits, hnull⟩ := homitted f hf hmem
    refine .inr ⟨homits, hnull, List.lookup_eq_none_iff.mpr ?_⟩
    rintro ⟨name, k⟩ hk
    by_contra hname
    obtain rfl : f.1 = name := by simpa using hname
    obtain ⟨hk, rfl⟩ := honly k hk
    exact hmem hk

/-! ## Fields that occur twice -/

theorem givesOnce_iff {names : List String} {given : List (String × Json)} :
    givesOnce names given = true ↔ ∀ name ∈ names, (given.map Prod.fst).count name ≤ 1 := by
  simp [givesOnce]

theorem givesOnce_of_subset {names others : List String} {given : List (String × Json)}
    (h : givesOnce names given = true) (hsub : others ⊆ names) : givesOnce others given = true := by
  rw [givesOnce_iff] at h ⊢
  exact fun name hname => h name (hsub hname)

theorem fields?_object_eq_some_iff {names : List String} {given fs : List (String × Json)} :
    (Json.object given).fields? names = some fs ↔
      (∀ name ∈ names, (given.map Prod.fst).count name ≤ 1) ∧ given = fs := by
  rw [fields?, Option.ite_none_right_eq_some, givesOnce_iff, Option.some.injEq]

theorem givesOnce_of_perm {fields kept unknown given : List (String × Json)}
    (hnames : (fields.map Prod.fst).Nodup) (hkept : kept.Sublist fields)
    (hunknown : ∀ f ∈ unknown, f.1 ∉ fields.map Prod.fst) (hgiven : given.Perm (kept ++ unknown)) :
    givesOnce (fields.map Prod.fst) given = true := by
  rw [givesOnce_iff]
  intro name hname
  have hnone : (unknown.map Prod.fst).count name = 0 := by
    rw [List.count_eq_zero, List.mem_map]
    rintro ⟨f, hf, rfl⟩
    exact hunknown f hf hname
  calc (given.map Prod.fst).count name
    _ = (kept.map Prod.fst).count name := by
      rw [(hgiven.map Prod.fst).count_eq, List.map_append, List.count_append, hnone, Nat.add_zero]
    _ ≤ (fields.map Prod.fst).count name := (hkept.map Prod.fst).count_le name
    _ ≤ 1 := List.nodup_iff_count_le_one.mp hnames name

/-! ## The fields of a record -/

theorem Record.array_or_object {omits : Bool} {fields : List (String × Json)} {j : Json}
    (h : Record omits fields j) (names : List String) (hnames : fields.map Prod.fst = names)
    (hnodup : names.Nodup) : j = .array (fields.map Prod.snd) ∨
      ∃ given, j = .object given ∧ givesOnce names given = true ∧
        ∀ f ∈ fields, Found omits given f := by
  subst hnames
  cases h with
  | array => exact .inl rfl
  | object hkept homitted hunknown hgiven =>
    exact .inr ⟨_, rfl, givesOnce_of_perm hnodup hkept hunknown hgiven,
      fun f hf => found_of_perm hnodup hkept homitted hunknown hgiven hf⟩

theorem Record.exists_fields {omits : Bool} {fields : List (String × Json)} {j : Json}
    (h : Record omits fields j) (names : List String) (hnames : fields.map Prod.fst = names)
    (hnodup : names.Nodup) :
    ∃ given, j.fields names = .ok given ∧ ∀ f ∈ fields, Found omits given f := by
  rcases h.array_or_object names hnames hnodup with rfl | ⟨given, rfl, honce, hfound⟩
  · subst hnames
    refine ⟨fields, ?_, fun f hf => .inl (lookup_eq_some hf fun k hk => ?_)⟩
    · simp [Json.fields, fields?, DecodeError.ofOption, List.zip_map', List.map_id']
    · exact congrArg Prod.snd (eq_of_same_name hnodup hk hf rfl)
  · refine ⟨given, ?_, hfound⟩
    rw [Json.fields, fields?_object_eq_some_iff.mpr ⟨givesOnce_iff.mp honce, rfl⟩]
    rfl

/-! ## Fields -/

theorem Found.lookup_eq {given : List (String × Json)} {f : String × Json}
    (h : Found false given f) : given.lookup f.1 = some f.2 := by
  rcases h with h | ⟨homits, -⟩
  · exact h
  · cases homits

theorem field_eq {α : Type} {read : Json → Option α} {given : List (String × Json)} {name : String}
    {j : Json} {a : α} (h : Found false given (name, j)) (hread : read j = some a) :
    field read name given = .ok a := by
  rw [field, h.lookup_eq, Option.bind_some, hread]
  rfl

theorem field_some_eq {given : List (String × Json)} {name : String} {j : Json}
    (h : Found false given (name, j)) : field some name given = .ok j :=
  field_eq h rfl

theorem optionalField_eq {omits : Bool} {given : List (String × Json)} {name : String}
    {s : Option String} (h : Found omits given (name, ofOptionalString s)) :
    optionalField string? name given = .ok s := by
  rw [optionalField]
  rcases h with h | ⟨-, hnull, h⟩
  · rw [h]
    cases s <;> rfl
  · rw [h]
    cases s with
    | none => rfl
    | some s => cases hnull

theorem string?_string (s : String) : string? (.string s) = some s := rfl

theorem bool?_bool (b : Bool) : bool? (.bool b) = some b := rfl

theorem strings?_ofStrings (xs : List String) : array? string? (ofStrings xs) = some xs := by
  rw [ofStrings, array?, List.mapM_map]
  induction xs with
  | nil => rfl
  | cons x xs ih => rw [List.mapM_cons, ih]; rfl

theorem items?_array (items : List Json) : array? some (.array items) = some items := by
  rw [array?]
  induction items with
  | nil => rfl
  | cons j items ih => rw [List.mapM_cons, ih]; rfl

theorem line?_natural (n : UInt64) : line? (.natural n.toNat) = some n := by
  rw [line?, if_pos n.toNat_lt_size, UInt64.ofNat_toNat]

end Json

end PublicSuffix
