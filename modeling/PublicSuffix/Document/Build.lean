import PublicSuffix.Document.Node

/-!
# Building trees

New blocks are made from what identifies them and are unchanged, without lines and empty. The
functions of this module say what can be added to a node; a result `none` means that the node is
not of a kind to which this applies.
-/

namespace PublicSuffix

namespace Block

/-- A section without blocks. -/
def ofSection (name : String) : Block := .group (.ofSection { name }) []

/-- An entity without blocks. -/
def ofEntity (name : String) : Block := .group (.ofEntity { info := { name } }) []

/-- A suffix. -/
def ofSuffix (domain : Name) : Block := .entry (.ofSuffix { domain })

/-- A wildcard without exceptions. -/
def ofWildcard (domain : Name) : Block := .entry (.ofWildcard { domain })

/-- A comment. -/
def ofComment (text : List String) : Block := .entry (.ofComment { text })

end Block

/-- A heading with its changed flag set. -/
def Heading.withChanged (changed : Bool) : Heading → Heading
  | .ofSection s => .ofSection { s with changed }
  | .ofEntity e => .ofEntity { e with changed }

/-- An entry with its changed flag set. -/
def Entry.withChanged (changed : Bool) : Entry → Entry
  | .ofSuffix s => .ofSuffix { s with changed }
  | .ofWildcard w => .ofWildcard { w with changed }
  | .ofComment c => .ofComment { c with changed }

/-- A heading with its lines set. -/
def Heading.withLines (lines : LineRange) : Heading → Heading
  | .ofSection s => .ofSection { s with lines }
  | .ofEntity e => .ofEntity { e with lines }

/-- An entry with its lines set. -/
def Entry.withLines (lines : LineRange) : Entry → Entry
  | .ofSuffix s => .ofSuffix { s with lines }
  | .ofWildcard w => .ofWildcard { w with lines }
  | .ofComment c => .ofComment { c with lines }

/-- The lines of a heading. -/
def Heading.lines : Heading → LineRange
  | .ofSection s => s.lines
  | .ofEntity e => e.lines

/-- The lines of an entry. -/
def Entry.lines : Entry → LineRange
  | .ofSuffix s => s.lines
  | .ofWildcard w => w.lines
  | .ofComment c => c.lines

namespace Node

/-- `onto` with `what` as its last block. A list is no block and cannot be put below another
node. -/
def push? (onto what : Node) : Option Node :=
  match onto, what with
  | .list l, .block b => some (.list ⟨l.blocks ++ [b]⟩)
  | .block (.group h bs), .block b => some (.block (.group h (bs ++ [b])))
  | _, _ => none

/-- The node with its changed flag set. A list has none of its own. -/
def withChanged? (changed : Bool) : Node → Option Node
  | .list _ => none
  | .block (.group h bs) => some (.block (.group (h.withChanged changed) bs))
  | .block (.entry e) => some (.block (.entry (e.withChanged changed)))

/-- The node with its lines set. A list has none of its own. -/
def withLines? (lines : LineRange) : Node → Option Node
  | .list _ => none
  | .block (.group h bs) => some (.block (.group (h.withLines lines) bs))
  | .block (.entry e) => some (.block (.entry (e.withLines lines)))

/-- The wildcard with one more exception. -/
def except? (label : String) : Node → Option Node
  | .block (.entry (.ofWildcard w)) =>
    some (.block (.entry (.ofWildcard { w with exceptions := w.exceptions ++ [label] })))
  | _ => none

/-- The entity with one more maintainer. -/
def maintainer? (m : Maintainer) : Node → Option Node
  | .block (.group (.ofEntity e) bs) =>
    let info := { e.info with maintainers := e.info.maintainers ++ [m] }
    some (.block (.group (.ofEntity { e with info }) bs))
  | _ => none

/-- What a node is called: the name of a section, an entity or a domain, or the text of a
comment. A list has no name. -/
def title : Node → String
  | .list _ => ""
  | .block (.group (.ofSection s) _) => s.name
  | .block (.group (.ofEntity e) _) => e.info.name
  | .block (.entry (.ofSuffix s)) => s.domain.text
  | .block (.entry (.ofWildcard w)) => w.domain.text
  | .block (.entry (.ofComment c)) => "\n".intercalate c.text

/-- The lines of a node. Those of a list are not known. -/
def lines : Node → LineRange
  | .list _ => {}
  | .block (.group h _) => h.lines
  | .block (.entry e) => e.lines

end Node

end PublicSuffix
