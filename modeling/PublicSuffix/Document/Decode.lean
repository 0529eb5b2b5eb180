import PublicSuffix.Document.Block
import PublicSuffix.Document.Json

/-!
# Lists in JSON: reading

All fields of a record are needed, but for those of a maintainer, and none may be given twice.
Domains are read as domain names; a text that is none is the one reason for refusal that is told
apart, all others are one and the same: the value has not the shape of a list.
-/

namespace PublicSuffix

/-- Why a value is no list. -/
inductive DecodeError where
  /-- A field is missing or a value is not of the kind that is needed at its place. -/
  | shape
  /-- A domain is no domain name. -/
  | name (e : NameError)
  deriving DecidableEq, Repr

/-- The result of an attempt to recognise a shape. -/
def DecodeError.ofOption {α : Type} : Option α → Except DecodeError α
  | some a => .ok a
  | none => .error .shape

namespace Json

/-- The fields of a record. -/
def fields (names : List String) (j : Json) : Except DecodeError (List (String × Json)) :=
  DecodeError.ofOption (j.fields? names)

/-- The field of the given name, read by `f`. -/
def field {α : Type} (f : Json → Option α) (name : String) (fields : List (String × Json)) :
    Except DecodeError α :=
  DecodeError.ofOption ((fields.lookup name).bind f)

/-- The field of the given name, read by `f`, which may be null or missing. -/
def optionalField {α : Type} (f : Json → Option α) (name : String)
    (fields : List (String × Json)) : Except DecodeError (Option α) :=
  match fields.lookup name with
  | none => .ok none
  | some j => DecodeError.ofOption (j.nullable? f)

end Json

/-- The line range that a record describes. -/
def LineRange.ofJson (j : Json) : Except DecodeError LineRange := do
  let fields ← j.fields ["first_line", "last_line"]
  return ⟨← Json.field Json.line? "first_line" fields, ← Json.field Json.line? "last_line" fields⟩

/-- The line range in the field `source_range`. -/
def LineRange.ofField (fields : List (String × Json)) : Except DecodeError LineRange := do
  LineRange.ofJson (← Json.field some "source_range" fields)

/-- The domain name in the field `domain`. -/
def Name.ofField (fields : List (String × Json)) : Except DecodeError Name := do
  (Name.ofText (← Json.field Json.string? "domain" fields)).mapError .name

/-- The maintainer that a record describes. -/
def Maintainer.ofJson (j : Json) : Except DecodeError Maintainer := do
  let fields ← j.fields ["name", "email", "github"]
  let name ← Json.optionalField Json.string? "name" fields
  let email ← Json.optionalField Json.string? "email" fields
  let github ← Json.optionalField Json.string? "github" fields
  return { name, email, github }

/-- What a record says about an entity. -/
def EntityInfo.ofJson (j : Json) : Except DecodeError EntityInfo := do
  let fields ← j.fields ["name", "urls", "maintainers", "other"]
  let name ← Json.field Json.string? "name" fields
  let urls ← Json.field (Json.array? Json.string?) "urls" fields
  let maintainers ← (← Json.field (Json.array? some) "maintainers" fields).mapM Maintainer.ofJson
  let other ← Json.field (Json.array? Json.string?) "other" fields
  return { name, urls, maintainers, other }

/-- The section that a record opens. -/
def Section.ofJson (j : Json) : Except DecodeError Section := do
  let fields ← j.fields ["name", "source_range", "blocks", "changed"]
  let name ← Json.field Json.string? "name" fields
  let lines ← LineRange.ofField fields
  let changed ← Json.field Json.bool? "changed" fields
  return { name, lines, changed }

/-- The entity that a record names. -/
def Entity.ofJson (j : Json) : Except DecodeError Entity := do
  let fields ← j.fields ["info", "source_range", "blocks", "changed"]
  let info ← EntityInfo.ofJson (← Json.field some "info" fields)
  let lines ← LineRange.ofField fields
  let changed ← Json.field Json.bool? "changed" fields
  return { info, lines, changed }

/-- The suffix that a record describes. -/
def Suffix.ofJson (j : Json) : Except DecodeError Suffix := do
  let fields ← j.fields ["domain", "source_range", "changed"]
  let domain ← Name.ofField fields
  let lines ← LineRange.ofField fields
  let changed ← Json.field Json.bool? "changed" fields
  return { domain, lines, changed }

/-- The wildcard that a record describes. -/
def Wildcard.ofJson (j : Json) : Except DecodeError Wildcard := do
  let fields ← j.fields ["domain", "exceptions", "source_range", "changed"]
  let domain ← Name.ofField fields
  let exceptions ← Json.field (Json.array? Json.string?) "exceptions" fields
  let lines ← LineRange.ofField fields
  let changed ← Json.field Json.bool? "changed" fields
  return { domain, exceptions, lines, changed }

/-- The comment that a record describes. -/
def Comment.ofJson (j : Json) : Except DecodeError Comment := do
  let fields ← j.fields ["text", "source_range", "changed"]
  let text ← Json.field (Json.array? Json.string?) "text" fields
  let lines ← LineRange.ofField fields
  let changed ← Json.field Json.bool? "changed" fields
  return { text, lines, changed }

mutual

/-- The block that an object with one field describes. -/
def Block.ofJson : Json → Except DecodeError Block
  | .object [(tag, record)] =>
    match tag with
    | "Section" => do
      let s ← Section.ofJson record
      return .group (.ofSection s) (← Block.ofRecord record)
    | "Suffixes" => do
      let e ← Entity.ofJson record
      return .group (.ofEntity e) (← Block.ofRecord record)
    | "Suffix" => do return .entry (.ofSuffix (← Suffix.ofJson record))
    | "Wildcard" => do return .entry (.ofWildcard (← Wildcard.ofJson record))
    | "Comment" => do return .entry (.ofComment (← Comment.ofJson record))
    | _ => .error .shape
  | _ => .error .shape

/-- The blocks under the heading that a record describes. -/
def Block.ofRecord : Json → Except DecodeError (List Block)
  | .object fields => Block.ofField fields
  | .array [_, _, blocks, _] => Block.ofArray blocks
  | _ => .error .shape

/-- The blocks in the field `blocks`, which occurs once. -/
def Block.ofField : List (String × Json) → Except DecodeError (List Block)
  | [] => .error .shape
  | (name, j) :: fields =>
    if name ≠ "blocks" then Block.ofField fields
    else if Json.givesOnce ["blocks"] ((name, j) :: fields) then Block.ofArray j
    else .error .shape

/-- The blocks in an array. -/
def Block.ofArray : Json → Except DecodeError (List Block)
  | .array items => Block.ofItems items
  | _ => .error .shape

/-- Blocks one by one. -/
def Block.ofItems : List Json → Except DecodeError (List Block)
  | [] => .ok []
  | j :: items => do
    let b ← Block.ofJson j
    return b :: (← Block.ofItems items)

end

/-- The list that a record describes. -/
def SuffixList.ofJson : Json → Except DecodeError SuffixList
  | .object fields => return ⟨← Block.ofField fields⟩
  | .array [blocks] => return ⟨← Block.ofArray blocks⟩
  | _ => .error .shape

end PublicSuffix
