import PublicSuffix.Provenance.Lookup
import PublicSuffix.Text.Octets

/-!
# The stub resolver

The stub resolver leaves it to a library to speak with name servers, to read the names that are
asked for and to read the answers. `Library` has the functions of such a library that the resolver
calls, whatever messages are for it.

A name that the library refuses is not asked for. An answer with a response code that is an error
says nothing else. Otherwise the text records of its answer section give the texts, and one that
cannot be read spoils them all. The text of a record is what its character strings hold, joined
before it is decoded, so that a character may begin in one string and end in the next.
-/

namespace PublicSuffix.Dns

/-- What a library does with names and answers. -/
structure Library (Message Section : Type) where
  /-- Why a text is no name that can be asked for, if it is none. -/
  refusal? : String → Option String
  /-- Whether an answer reports no error. -/
  noError : Message → Bool
  /-- The response code of an answer in words. -/
  codeText : Message → String
  /-- The section of an answer that answers the question, or why there is none to be read. -/
  answer : Message → Except String Section
  /-- The text records of a section, each by its character strings, or why it cannot be read. -/
  limitToText : Section → List (Except String (List (List UInt8)))

/-- What comes of a question that is sent: the message that the library takes for the answer, or
why there is none. -/
abbrev Server (Message : Type) := Name → Except String Message

namespace Library

variable {Message Section : Type} (lib : Library Message Section)

/-- The text of a record, whose strings are joined before they are decoded. -/
def recordText : Except String (List (List UInt8)) → Except LookupError String
  | .ok strings => .ok (Text.decodeLossy strings.flatten)
  | .error reason => .error (.parse reason)

/-- What an answer says. -/
def texts (m : Message) : Answer :=
  if lib.noError m then
    match lib.answer m with
    | .ok s => (lib.limitToText s).mapM recordText
    | .error reason => .error (.parse reason)
  else .error (.response (lib.codeText m))

/-- What comes of the question for a name's text records. -/
def ask (server : Server Message) (name : Name) : Answer :=
  match lib.refusal? name.text with
  | some reason => .error (.queryName reason)
  | none =>
    match server name with
    | .ok m => lib.texts m
    | .error reason => .error (.io reason)

/-- The resolver that asks a server, which takes a certain time for each name, or for ever. -/
def resolver (server : Server Message) (delay : Name → Option Nat) : Resolver := fun name =>
  ⟨delay name, lib.ask server name⟩

end Library

end PublicSuffix.Dns
