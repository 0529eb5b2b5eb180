import PublicSuffix.Log
import PublicSuffix.Text.Alphanumeric
import PublicSuffix.Text.Blank

/-!
# Filters of log messages

A filter decides which messages are shown. It is a list of directives; a directive sets the least
severe level that is shown for the parts whose path begins with its target. For a message, the
directive with the longest such target decides, the last one of several equals. Where none
applies, nothing is shown.

A text writes a filter as directives between commas. A directive is a level, a target, or a target
and a level with an equals sign between. Behind its target, a scope in square brackets may restrict
it further, such as `[{message}]`: to messages with a field of that name, or to what happens inside
of an activity. Validations have no activities, and the only field of their messages is the message.
-/

namespace PublicSuffix.Log

/-! ## Directives -/

/-- What a directive is restricted to, beside its target. -/
inductive Scope where
  | all
  /-- Messages with a field of this name. -/
  | field (name : List Char)
  /-- What happens inside of an activity of some name or with some value. -/
  | activity
  deriving DecidableEq, Repr

/-- A rule of a filter. The threshold is the least severe level that is shown; without one,
nothing is. An empty target is for all parts. -/
structure Directive where
  target : List Char
  scope : Scope
  threshold : Option Level
  deriving DecidableEq, Repr

/-- Whether a directive is for the messages of a part. -/
def Directive.appliesTo (d : Directive) (part : Part) : Bool :=
  d.target.isPrefixOf part.path.toList &&
    match d.scope with
    | .all => true
    | .field name => name = "message".toList
    | .activity => false

/-- How specific a directive is: first by the length of its target, then by its scope. -/
def Directive.weight (d : Directive) : Nat :=
  2 * d.target.length +
    match d.scope with
    | .field _ => 1
    | _ => 0

/-! ## Reading directives -/

/-- Why a text is no directive. -/
inductive DirectiveError where
  | malformed
  | unknownLevel
  deriving DecidableEq, Repr

/-- What a reader is told about a text that is no directive. -/
def DirectiveError.message : DirectiveError → String
  | .malformed => "invalid filter directive"
  | .unknownLevel =>
    "error parsing level filter: expected one of \"off\", \"error\", \"warn\", \"info\", " ++
      "\"debug\", \"trace\", or a number 0-5"

/-- The thresholds by their names in lower case. Each has its place as its number, from 0 on. -/
def thresholds : List (String × Option Level) :=
  [("off", none), ("error", some .error), ("warn", some .warn), ("info", some .info),
   ("debug", some .debug), ("trace", some .trace)]

/-- The number that a text writes in decimal digits, with or without a plus sign in front. -/
def number? (text : List Char) : Option Nat :=
  let digits := if text.head? = some '+' then text.tail else text
  if digits ≠ [] ∧ digits.all Char.isDigit then some (Text.decimal digits) else none

/-- The threshold that a text names, by its number or in upper or lower case. -/
def threshold? (text : List Char) : Option (Option Level) :=
  match number? text with
  | some n => thresholds[n]?.map Prod.snd
  | none => thresholds.lookup (String.ofList (text.map Char.toLower))

/-- The threshold that stands after an equals sign. If nothing does, everything is shown. -/
def thresholdAfterEquals (text : List Char) : Except DirectiveError (Option Level) :=
  if text = [] then .ok (some .trace)
  else
    match threshold? text with
    | some threshold => .ok threshold
    | none => .error .unknownLevel

/-- Whether a target may begin with `c`. -/
def opensTarget (c : Char) : Bool :=
  c = '-' || c = ':' || c = '_' || Text.isAlphanumeric c

/-- The scope whose text follows an opening square bracket, and what stands after it. A scope is
the name of an activity, or a field in braces with or without such a name in front. Since only
activities have values, a field with a value is for them. -/
def scope? (cut : List Char → List Char) (inside : List Char) :
    Option (Scope × List Char) :=
  let name := inside.takeWhile fun c => c ≠ ']' && c ≠ '\x7b'
  match inside.dropWhile fun c => c ≠ ']' && c ≠ '\x7b' with
  | ']' :: rest => some (.activity, rest)
  | _ :: braces =>
    let field := (cut braces).take (braces.takeWhile (· ≠ '\x7d')).length
    match braces.dropWhile (· ≠ '\x7d') with
    | _ :: ']' :: rest =>
      if field = [] then none
      else some (if name = [] ∧ '=' ∉ field then .field field else .activity, rest)
    | _ => none
  | [] => none

/-- The directive that a text writes. What stands where is decided without the blanks around the
text, but its parts are cut from the whole text at the places found. So a directive with a blank
in front never applies, and none with a blank behind its level is read. -/
def Directive.ofText (text : List Char) : Except DirectiveError Directive :=
  let bare := Text.trim text
  let cut (rest : List Char) : List Char := text.drop (bare.length - rest.length)
  let target := text.take (bare.takeWhile fun c => c ≠ '=' && c ≠ '[').length
  if bare.head?.any (fun c => c = '[' || opensTarget c) then
    match bare.dropWhile fun c => c ≠ '=' && c ≠ '[' with
    | [] =>
      match threshold? text with
      | some threshold => .ok ⟨[], .all, threshold⟩
      | none => .ok ⟨text, .all, some .trace⟩
    | '=' :: level =>
      (thresholdAfterEquals (cut level)).map fun threshold => ⟨target, .all, threshold⟩
    | _ :: inside =>
      match scope? cut inside with
      | some (scope, []) => .ok ⟨target, scope, some .trace⟩
      | some (scope, '=' :: level) =>
        (thresholdAfterEquals (cut level)).map fun threshold => ⟨target, scope, threshold⟩
      | _ => .error .malformed
  else .error .malformed

/-- A level may be given by its number, and a target alone is for everything. -/
example : Directive.ofText "online=4".toList = .ok ⟨"online".toList, .all, some .debug⟩ ∧
    Directive.ofText "online".toList = .ok ⟨"online".toList, .all, some .trace⟩ := by
  constructor <;> rfl

/-- A blank in front of a directive displaces the cuts. -/
example : Directive.ofText " online=debug".toList = .error .unknownLevel := by rfl

/-! ## Filters -/

/-- The directives of a filter, in order. -/
abbrev Filter := List Directive

/-- The filter of some directives. Without any, only errors are shown. -/
def Filter.ofDirectives (directives : List Directive) : Filter :=
  if directives = [] then [⟨[], .all, some .error⟩] else directives

/-- The texts between the commas of a filter, except for empty ones. -/
def pieces (text : String) : List (List Char) :=
  (text.toList.splitOn ',').filter (· ≠ [])

/-- The filter that a text writes if all between its commas are directives. -/
def Filter.ofText? (text : String) : Option Filter :=
  ((pieces text).mapM fun piece => (Directive.ofText piece).toOption).map Filter.ofDirectives

/-- The filter that a text writes. What is no directive is passed over. -/
def Filter.ofText (text : String) : Filter :=
  Filter.ofDirectives ((pieces text).filterMap fun piece => (Directive.ofText piece).toOption)

/-- What a reader is told about a text between the commas of a filter. -/
def notice? (piece : List Char) : Option String :=
  match Directive.ofText piece with
  | .ok _ => none
  | .error e => some ("ignoring `" ++ String.ofList piece ++ "`: " ++ e.message)

/-- The directive that decides for a part: of those that apply, the most specific one, and the
last one of several such. -/
def Filter.deciding? (f : Filter) (part : Part) : Option Directive :=
  (f.filter fun d => d.appliesTo part).foldl (fun best d =>
    match best with
    | none => some d
    | some b => if b.weight ≤ d.weight then some d else some b) none

/-- Whether a filter shows a message. -/
def Filter.shows (f : Filter) (m : Message) : Bool :=
  match (f.deciding? m.part).bind Directive.threshold with
  | none => false
  | some threshold => m.level.rank ≤ threshold.rank

/-- The filter in use unless another one is asked for. -/
def defaultFilter : String := "psl_validate=warn"

/-! ## What is shown -/

/-- The filter that a sequence of requests leaves in force. Only the first request counts, and a
request without a filter of its own asks for the default one. A filter that the environment gives
takes the place of whatever is asked for, unless it cannot be read as a whole. Without any
request, nothing is shown. -/
def inForce (environment : Option String) (requests : List (Option String)) : Option Filter :=
  requests.head?.map fun request =>
    (environment.bind Filter.ofText?).getD (Filter.ofText (request.getD defaultFilter))

/-- What a reader is told about the filters that are asked for. Each request is read, also one that
comes too late, but none is where the environment gives a filter. -/
def notices (environment : Option String) (requests : List (Option String)) : List String :=
  match environment.bind Filter.ofText? with
  | some _ => []
  | none => requests.flatMap fun request =>
      (pieces (request.getD defaultFilter)).filterMap notice?

/-- The lines that are shown of a sequence of messages, after the notices on the filters. -/
def shown (environment : Option String) (requests : List (Option String))
    (messages : List Message) : List String :=
  (notices environment requests).flatMap (fun notice => linesOf notice.toList) ++
    match inForce environment requests with
    | none => []
    | some f => (messages.filter f.shows).flatMap Message.lines

end PublicSuffix.Log
