import PublicSuffix.Domain.NameError

/-!
# Why a lookup fails
-/

namespace PublicSuffix

/-- The reasons for which a lookup gives no result. -/
inductive LookupError where
  /-- The name to ask for cannot be built. -/
  | name (e : NameError)
  /-- The resolver does not take the name. -/
  | queryName (text : String)
  /-- The resolver cannot be reached or breaks off. -/
  | io (text : String)
  /-- No answer arrives in time. -/
  | timeout
  /-- The answer is a refusal, given by the mnemonic of its response code. -/
  | response (code : String)
  /-- The name has no TXT records. -/
  | noRecords
  /-- The answer cannot be read. -/
  | parse (text : String)
  /-- A record has a change URL with a number that is no change number. -/
  | badChangeId (digits : String)
  deriving DecidableEq, Repr

/-- The reason in words. -/
def LookupError.message : LookupError → String
  | .name e => e.message
  | .queryName text => "cannot query name: " ++ text
  | .io text => text
  | .timeout => "query timed out"
  | .response code => "server responded with " ++ code
  | .noRecords => "no TXT records found"
  | .parse text => "malformed answer: " ++ text
  | .badChangeId digits => "invalid change number " ++ Text.quoted digits

/-- The reason behind the reason, where there is one. -/
def LookupError.cause? : LookupError → Option String
  | .name e => some e.message
  | .io text => some text
  | _ => none

end PublicSuffix
