import PublicSuffix.Text.Printable

/-!
# Quoted text

A text or character from outside is quoted before it goes into a message, so that a reader sees
exactly what it holds: the enclosing quote, the backslash and everything without a visible form
of its own are escaped. A double quote is escaped only inside a text, a single quote only in a
quoted character.
-/

namespace PublicSuffix.Text

/-- The escape of a character by its code point, in lower-case hexadecimal without padding. -/
def codePointEscape (c : Char) : List Char :=
  '\\' :: 'u' :: '\x7b' :: (Nat.toDigits 16 c.toNat ++ ['\x7d'])

/-- The characters that stand for `c` between two `quote` characters. -/
def escaped (quote c : Char) : List Char :=
  if c = '\x00' then ['\\', '0']
  else if c = '\t' then ['\\', 't']
  else if c = '\r' then ['\\', 'r']
  else if c = '\n' then ['\\', 'n']
  else if c = '\\' ∨ c = quote then ['\\', c]
  else if isShown c then [c]
  else codePointEscape c

/-- A character in single quotes. -/
def quotedChar (c : Char) : String :=
  String.ofList ('\'' :: (escaped '\'' c ++ ['\'']))

/-- A text in double quotes. -/
def quoted (s : String) : String :=
  String.ofList ('"' :: (s.toList.flatMap (escaped '"') ++ ['"']))

example : quoted "it's \"so\"\n" = "\"it's \\\"so\\\"\\n\"" := by decide
example : quotedChar '\'' = "'\\''" ∧ quotedChar '"' = "'\"'" := by decide

set_option maxRecDepth 8000 in
/-- A combining mark and a zero-width space are named by their code points. -/
example : escaped '"' '\u0301' = "\\u\x7b301\x7d".toList ∧
    escaped '"' '\u200b' = "\\u\x7b200b\x7d".toList := by decide

end PublicSuffix.Text
