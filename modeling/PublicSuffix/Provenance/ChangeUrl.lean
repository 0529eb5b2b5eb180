import PublicSuffix.Provenance.LookupError
import PublicSuffix.Text.Alphanumeric

/-!
# Change URLs

A change is named by the number at the end of a URL such as `https://example.org/review/482`. In
a text, the number is looked for in the first line that holds `https://` and, somewhere after it,
a slash directly followed by a digit. It is the run of digits after the last such slash of that
line; what follows the digits does not matter. Lines end at line feeds only.

A change number is below 2^64. A longer number is an error and not the absence of a number.
-/

namespace PublicSuffix

/-- The number of a change. -/
abbrev ChangeId := UInt64

namespace ChangeUrl

/-- What a change URL begins with. -/
def scheme : List Char := "https://".toList

/-- What follows the first occurrence of the scheme. -/
def afterScheme? : List Char → Option (List Char)
  | [] => none
  | c :: cs =>
    if scheme.isPrefixOf (c :: cs) then some ((c :: cs).drop scheme.length) else afterScheme? cs

/-- The digits that a text begins with. -/
def leadingDigits (cs : List Char) : List Char := cs.takeWhile Char.isDigit

/-- The digits after the last slash that digits follow. -/
def lastNumber? : List Char → Option (List Char)
  | [] => none
  | c :: cs =>
    match lastNumber? cs with
    | some digits => some digits
    | none => if c = '/' ∧ leadingDigits cs ≠ [] then some (leadingDigits cs) else none

/-- The digits of the change URL in a line. -/
def numberInLine? (line : List Char) : Option (List Char) :=
  (afterScheme? line).bind lastNumber?

/-- The digits of the change URL in a text. -/
def number? (text : String) : Option (List Char) :=
  (text.toList.splitOn '\n').findSome? numberInLine?

/-- The change that a text names, if it names one. -/
def changeId (text : String) : Except LookupError (Option ChangeId) :=
  match number? text with
  | none => .ok none
  | some digits =>
    if Text.decimal digits < UInt64.size then .ok (some (UInt64.ofNat (Text.decimal digits)))
    else .error (.badChangeId (String.ofList digits))

example : number? "see https://example.org/17/ and https://example.org/review/482." =
    some ['4', '8', '2'] := by decide
example : number? "https://5" = none ∧ number? "https:///5" = some ['5'] := by decide

end ChangeUrl

end PublicSuffix
