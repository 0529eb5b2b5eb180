/-!
# JSON values

The form in which lists are stored and exchanged. A number is kept apart as a natural one where it
is written as such; any other number serves for nothing in a list.

A *record* is written as an object, or as the array of all its fields in their order. Unknown
fields of an object are ignored, but none of the others may occur twice.
-/

namespace PublicSuffix

/-- A JSON value. -/
inductive Json where
  | null
  | bool (b : Bool)
  | natural (n : Nat)
  | otherNumber (written : String)
  | string (s : String)
  | array (items : List Json)
  | object (fields : List (String × Json))
  deriving Inhabited

namespace Json

/-- Whether no field of one of the given names occurs twice. -/
def givesOnce (names : List String) (fields : List (String × Json)) : Bool :=
  names.all fun name => (fields.map Prod.fst).count name ≤ 1

/-- The fields of a record, whose names are given in their order. -/
def fields? (names : List String) : Json → Option (List (String × Json))
  | .object fields => if givesOnce names fields then some fields else none
  | .array items => if items.length = names.length then some (names.zip items) else none
  | _ => none

/-- The text that a value is. -/
def string? : Json → Option String
  | .string s => some s
  | _ => none

/-- The truth value that a value is. -/
def bool? : Json → Option Bool
  | .bool b => some b
  | _ => none

/-- The line number that a value is: a natural number below 2^64. -/
def line? : Json → Option UInt64
  | .natural n => if n < UInt64.size then some (UInt64.ofNat n) else none
  | _ => none

/-- The items of an array, each read by `f`. -/
def array? {α : Type} (f : Json → Option α) : Json → Option (List α)
  | .array items => items.mapM f
  | _ => none

/-- A value that may be missing: null, or something read by `f`. -/
def nullable? {α : Type} (f : Json → Option α) : Json → Option (Option α)
  | .null => some none
  | j => (f j).map some

end Json

end PublicSuffix
