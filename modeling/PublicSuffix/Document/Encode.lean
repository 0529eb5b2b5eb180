import PublicSuffix.Document.Block
import PublicSuffix.Document.Json

/-!
# Lists in JSON: writing

Every record is written as an object with all its fields, and a block as an object with one field,
whose name tells what the block is.
-/

namespace PublicSuffix

/-- Texts as an array. -/
def Json.ofStrings (xs : List String) : Json := .array (xs.map .string)

/-- A text that may be missing. -/
def Json.ofOptionalString : Option String → Json
  | none => .null
  | some s => .string s

/-- The record of a line range. -/
def LineRange.toJson (r : LineRange) : Json :=
  .object [("first_line", .natural r.first.toNat), ("last_line", .natural r.last.toNat)]

/-- The record of a maintainer. -/
def Maintainer.toJson (m : Maintainer) : Json :=
  .object [("name", .ofOptionalString m.name), ("email", .ofOptionalString m.email),
    ("github", .ofOptionalString m.github)]

/-- The record of what is known about an entity. -/
def EntityInfo.toJson (i : EntityInfo) : Json :=
  .object [("name", .string i.name), ("urls", .ofStrings i.urls),
    ("maintainers", .array (i.maintainers.map Maintainer.toJson)), ("other", .ofStrings i.other)]

/-- The name of the field that holds a group with this heading. -/
def Heading.tag : Heading → String
  | .ofSection _ => "Section"
  | .ofEntity _ => "Suffixes"

/-- The record of a group, given its blocks as JSON. -/
def Heading.toJson (blocks : List Json) : Heading → Json
  | .ofSection s =>
    .object [("name", .string s.name), ("source_range", s.lines.toJson),
      ("blocks", .array blocks), ("changed", .bool s.changed)]
  | .ofEntity e =>
    .object [("info", e.info.toJson), ("source_range", e.lines.toJson),
      ("blocks", .array blocks), ("changed", .bool e.changed)]

/-- The name of the field that holds an entry. -/
def Entry.tag : Entry → String
  | .ofSuffix _ => "Suffix"
  | .ofWildcard _ => "Wildcard"
  | .ofComment _ => "Comment"

/-- The record of an entry. -/
def Entry.toJson : Entry → Json
  | .ofSuffix s =>
    .object [("domain", .string s.domain.text), ("source_range", s.lines.toJson),
      ("changed", .bool s.changed)]
  | .ofWildcard w =>
    .object [("domain", .string w.domain.text), ("exceptions", .ofStrings w.exceptions),
      ("source_range", w.lines.toJson), ("changed", .bool w.changed)]
  | .ofComment c =>
    .object [("text", .ofStrings c.text), ("source_range", c.lines.toJson),
      ("changed", .bool c.changed)]

mutual

/-- A block as an object with one field. -/
def Block.toJson : Block → Json
  | .group h bs => .object [(h.tag, h.toJson (Block.toJsonAll bs))]
  | .entry e => .object [(e.tag, e.toJson)]

/-- Blocks one by one. -/
def Block.toJsonAll : List Block → List Json
  | [] => []
  | b :: bs => b.toJson :: Block.toJsonAll bs

end

/-- The record of a block without the field that tells what it is. -/
def Block.recordJson : Block → Json
  | .group h bs => h.toJson (Block.toJsonAll bs)
  | .entry e => e.toJson

/-- The record of a list. -/
def SuffixList.toJson (l : SuffixList) : Json :=
  .object [("blocks", .array (Block.toJsonAll l.blocks))]

end PublicSuffix
