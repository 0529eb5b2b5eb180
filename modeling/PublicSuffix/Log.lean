import PublicSuffix.Text.Quoted

/-!
# Log messages

A validation reports its progress in messages of different levels, each from one of its parts. A
message is shown on lines of its own. Its text may hold text from outside, so characters that a
terminal would obey are shown by their code points.
-/

namespace PublicSuffix.Log

/-- How much a message matters, from the most severe on. -/
inductive Level where
  | error
  | warn
  | info
  | debug
  | trace
  deriving DecidableEq, Repr

/-- The place of a level in the order of severity. -/
def Level.rank : Level → Nat
  | .error => 1
  | .warn => 2
  | .info => 3
  | .debug => 4
  | .trace => 5

/-- The name of a level. -/
def Level.display : Level → String
  | .error => "ERROR"
  | .warn => "WARN"
  | .info => "INFO"
  | .debug => "DEBUG"
  | .trace => "TRACE"

/-- The parts of a validation. -/
inductive Part where
  | offline
  | online
  | lookup
  deriving DecidableEq, Repr

/-- The path by which a part is shown and by which filters choose it. -/
def Part.path : Part → String
  | .offline => "psl_validate::validate::offline"
  | .online => "psl_validate::validate::online"
  | .lookup => "psl_validate::lookup"

/-- A message of a part. -/
structure Message where
  level : Level
  part : Part
  text : String
  deriving DecidableEq, Repr

/-- The characters that stand for `c` in a shown message: the bell, the backspace, the form feed,
the escape character, the delete character and the controls beyond ASCII are named, all others
stand for themselves. -/
def shownChar (c : Char) : List Char :=
  if c = '\x07' then "\\x07".toList
  else if c = '\x08' then "\\x08".toList
  else if c = '\x0c' then "\\x0c".toList
  else if c = '\x1b' then "\\x1b".toList
  else if c = '\x7f' then "\\x7f".toList
  else if 0x80 ≤ c.toNat ∧ c.toNat ≤ 0x9f then Text.codePointEscape c
  else [c]

/-- A line without the carriage return that may stand before its line feed. -/
def dropCarriageReturn (line : List Char) : List Char :=
  if line.getLast? = some '\r' then line.dropLast else line

/-- The lines of a text that ends with a line feed, which is left out. -/
def linesOf (text : List Char) : List String :=
  (text.splitOn '\n').map fun line => String.ofList (dropCarriageReturn line)

/-- What is shown of a message: the level in five columns, the part, and the text. -/
def Message.display (m : Message) : List Char :=
  let padding := List.replicate (5 - m.level.display.length) ' '
  padding ++ (m.level.display ++ " " ++ m.part.path ++ ": ").toList ++
    m.text.toList.flatMap shownChar

/-- The lines by which a message is shown. A text with line feeds goes on in further lines. -/
def Message.lines (m : Message) : List String :=
  linesOf m.display

/-- A terminal does not see an escape sequence of the text. -/
example : "\x1b[2J\u0085".toList.flatMap shownChar = "\\x1b[2J\\u\x7b85\x7d".toList := by decide

end PublicSuffix.Log
