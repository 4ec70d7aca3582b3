import SessionGateway.Log
import SessionGateway.Log.Pattern
import SessionGateway.Number.Reading

/-! Which events a log shows. A filter is a text of directives with commas between them; of those
that are about an event the most specific one decides. A directive may also name a span, and then
it is about no event outside of one. -/

namespace SessionGateway

/-- What a directive says of a field: its name, and whether a value is asked for. -/
structure FieldPattern where
  name : String
  hasValue : Bool
  deriving DecidableEq, Repr

/-- `target[span{field}]=level`, of which any part may be missing. -/
structure Directive where
  target : Option String
  span : Option String
  field : Option FieldPattern
  /-- The least severe level that is shown; none shows nothing. -/
  least : Option LogLevel
  deriving DecidableEq, Repr

namespace Directive

inductive Fault where
  | malformed
  | unknownLevel
  | notPattern
  deriving DecidableEq, Repr

def Fault.message : Fault → String
  | malformed => "invalid filter directive"
  | unknownLevel =>
    "error parsing level filter: expected one of \"off\", \"error\", \"warn\", " ++
      "\"info\", \"debug\", \"trace\", or a number 0-5"
  | notPattern => "invalid field filter: error building NFA"

/-- The levels that have a name and a number, from silence on. -/
def levels : List (String × Option LogLevel) :=
  [("off", none), ("error", some .error), ("warn", some .warn), ("info", some .info),
    ("debug", some .debug), ("trace", some .trace)]

/-- A number with an optional plus sign. -/
def levelNumber? (text : String) : Option Nat :=
  let digits := match text.toList with
    | '+' :: cs => cs
    | cs => cs
  if digits.isEmpty || !digits.all Char.isDigit then none else some (Text.decimalValue digits)

/-- A level by its number or, in any case, its name. -/
def level? (text : String) : Option (Option LogLevel) :=
  match levelNumber? text with
  | some n => (levels[n]?).map Prod.snd
  | none => levels.lookup (Text.foldAscii text)

/-- Everything of a target. -/
def about (target : Option String) : Directive := ⟨target, none, none, some .trace⟩

/-- A word by itself is a level if it can be, else a target. -/
def ofWord (word : String) : Directive :=
  match level? word with
  | some least => { about none with least }
  | none => about (some word)

/-- The characters that decide, each beside the one that is taken in its place. The former come
from the text without blanks around it and the latter from the whole text. -/
abbrev Scan := List (Char × Char)

def taken (scan : Scan) : List Char := scan.map Prod.snd

/-- Letters and numbers of all scripts, and `-`, `:`, `_`. -/
def startsName (c : Char) : Bool :=
  Text.isAlphanumeric c || ['-', ':', '_'].contains c

/-- What follows an equals sign, up to the end of the whole text. -/
def withLevel (d : Directive) (text : List Char) : Except Fault Directive :=
  if text.isEmpty then .ok d
  else match level? (String.ofList text) with
    | some least => .ok { d with least }
    | none => .error .unknownLevel

/-- What follows the closing bracket. -/
def readLevel (d : Directive) (tail : List Char) : Scan → Except Fault Directive
  | [] => .ok d
  | ('=', _) :: scan => d.withLevel (taken scan ++ tail)
  | _ => .error .malformed

/-- What a field can be compared with: truth values and numbers, and every pattern. -/
def isComparable (value : List Char) : Bool :=
  (readBinary64? (String.ofList value)).isSome || Pattern.isPattern value

/-- A name and perhaps a value between two equals signs; what follows the second is nothing. -/
def fieldPattern (text : List Char) : Except Fault FieldPattern :=
  match Text.splitAtChar (· == '=') text with
  | name :: value :: _ =>
    if isComparable value then .ok ⟨String.ofList name, true⟩ else .error .notPattern
  | _ => .ok ⟨String.ofList text, false⟩

/-- What follows an opening brace: one field that is not empty. -/
def readField (d : Directive) (tail : List Char) (scan : Scan) : Except Fault Directive :=
  let (inside, rest) := scan.span (·.1 != '\x7d')
  match inside, rest with
  | [], _ | _, [] => .error .malformed
  | _, _ :: rest => do
    let field ← fieldPattern (taken inside)
    match rest with
    | (']', _) :: rest => readLevel { d with field := some field } tail rest
    | _ => throw .malformed

/-- What follows an opening bracket. -/
def readSpan (d : Directive) (tail : List Char) (scan : Scan) : Except Fault Directive :=
  let (inside, rest) := scan.span fun c => c.1 != ']' && c.1 != '\x7b'
  let name := String.ofList (taken inside)
  match rest with
  | [] => .error .malformed
  | (']', _) :: rest => { d with span := some name }.readLevel tail rest
  | _ :: rest => { d with span := if name.isEmpty then none else some name }.readField tail rest

/-- A directive of a text without commas. -/
def ofChars (whole : List Char) : Except Fault Directive :=
  let seen := Text.trimBlanks whole
  let tail := whole.drop seen.length
  match seen.zip whole with
  | [] => .error .malformed
  | ('[', _) :: scan => (about none).readSpan tail scan
  | scan@((c, _) :: _) =>
    if !startsName c then .error .malformed
    else
      let (inside, rest) := scan.span fun c => c.1 != '=' && c.1 != '['
      let target := about (some (String.ofList (taken inside)))
      match rest with
      | [] => .ok (ofWord (String.ofList (taken inside ++ tail)))
      | ('=', _) :: rest => target.withLevel (taken rest ++ tail)
      | _ :: rest => target.readSpan tail rest

/-- Directives that wait for a span or for a value are about no event as such. -/
def concerns (d : Directive) (event : LogEvent) : Bool :=
  d.span.isNone &&
    d.target.all (fun t => t.toList.isPrefixOf event.target.toList) &&
    d.field.all fun f => !f.hasValue && event.names.contains f.name

def admits (d : Directive) (event : LogEvent) : Bool :=
  d.least.any fun level => level.severity ≤ event.level.severity

/-- A longer target is more specific, then a field, the last one by name. -/
def outranks (a b : Directive) : Bool :=
  let size (d : Directive) := (d.target.map fun t => t.utf8ByteSize + 1).getD 0
  let name (d : Directive) := d.field.map (·.name)
  size b < size a || size a == size b && match name a, name b with
    | some x, some y => y < x
    | some _, none => true
    | none, _ => false

end Directive

structure LogFilter where
  directives : List Directive
  deriving DecidableEq, Repr

namespace LogFilter

/-- Without a directive only errors are shown. -/
def ofDirectives : List Directive → LogFilter
  | [] => ⟨[{ Directive.about none with least := some .error }]⟩
  | directives => ⟨directives⟩

/-- The parts between commas that are not empty. -/
def parts (text : String) : List (List Char) :=
  (Text.splitAtChar (· == ',') text.toList).filter (· ≠ [])

/-- A filter all of whose directives can be read. -/
def ofText? (text : String) : Option LogFilter :=
  match (parts text).mapM Directive.ofChars with
  | .ok directives => some (ofDirectives directives)
  | .error _ => none

/-- The filter of the directives that can be read, with a notice for each of the others. -/
def ofReadable (text : String) : List String × LogFilter :=
  let read := (parts text).map fun part => (part, Directive.ofChars part)
  (read.filterMap fun
      | (part, .error fault) =>
        some ("ignoring `" ++ String.ofList part ++ "`: " ++ fault.message)
      | (_, .ok _) => none,
    ofDirectives (read.filterMap fun r => r.2.toOption))

/-- The directive that decides about an event; of equals, the later. -/
def decisive? (f : LogFilter) (event : LogEvent) : Option Directive :=
  (f.directives.filter (·.concerns event)).foldl
    (fun best d => match best with
      | none => some d
      | some b => if b.outranks d then some b else some d)
    none

def shows (f : LogFilter) (event : LogEvent) : Bool :=
  (f.decisive? event).any (·.admits event)

end LogFilter

end SessionGateway
