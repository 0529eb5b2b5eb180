import PublicSuffix.Text.Quoted

/-!
# Why a text is no domain name
-/

namespace PublicSuffix

/-- The reasons for which a text is refused as a domain name or as a label of one. -/
inductive NameError where
  /-- The name has no label. -/
  | emptyName
  /-- A label has no character. -/
  | emptyLabel
  /-- A label has more than 63 octets. -/
  | longLabel
  /-- The name has more than 253 octets. -/
  | longName
  /-- A label holds a character that none may hold. -/
  | disallowedChar (c : Char)
  deriving DecidableEq, Repr

/-- The reason in words. -/
def NameError.message : NameError → String
  | .emptyName => "empty domain name"
  | .emptyLabel => "empty domain name label"
  | .longLabel => "domain name label longer than 63 bytes"
  | .longName => "domain name longer than 253 bytes"
  | .disallowedChar c => "disallowed character " ++ Text.quotedChar c ++ " in domain name"

end PublicSuffix
