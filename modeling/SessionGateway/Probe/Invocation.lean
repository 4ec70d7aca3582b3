import SessionGateway.Probe.Grammar
import SessionGateway.Settings.Load
import SessionGateway.Terminal.Styled

/-! Command lines as invocations. An option that takes a value is settled only when the next option
or the end of its scope comes, so that of two faults the one that is met first is told of. -/

namespace SessionGateway.Probe

inductive UsageFault where
  | nothingAsked
  | noCommand
  | unknownCommand (word : String)
  | unexpectedArgument (word : String)
  | missingOperand
  | missingValue (flag : Flag)
  | needlessValue (flag : Flag) (value : String)
  | repeatedFlag (flag : Flag)
  deriving DecidableEq, Repr

/-- Why a command line is no invocation. -/
inductive Detour where
  | help (scope : Scope)
  | version
  | fault (f : UsageFault)
  deriving DecidableEq, Repr

/-- What one scope of a command line gives; switches have an empty value. -/
structure Given where
  flags : List (Flag × String)
  operands : List String
  deriving DecidableEq, Repr

namespace Given

def none : Given := ⟨[], []⟩

def value? (g : Given) (f : Flag) : Option String := g.flags.lookup f

def has (g : Given) (f : Flag) : Bool := (g.value? f).isSome

/-- An option may be given once in a scope. -/
def add (g : Given) (f : Flag) (value : String) : Except Detour Given :=
  if g.has f then .error (.fault (.repeatedFlag f))
  else if !f.accepts value then .error (.fault (.missingValue f))
  else .ok { g with flags := g.flags ++ [(f, value)] }

end Given

/-- What has been given, and the last option if it takes a value, with the value once it has
come. -/
structure Reading where
  given : Given
  last : Option (Flag × Option String)
  deriving DecidableEq, Repr

namespace Reading

def start : Reading := ⟨.none, none⟩

def awaitsValue (r : Reading) : Bool := r.last.any (·.2.isNone)

def settle (r : Reading) : Except Detour Given :=
  match r.last with
  | none => .ok r.given
  | some (f, none) => .error (.fault (.missingValue f))
  | some (f, some value) => r.given.add f value

/-- An option by itself. -/
def takeFlag (r : Reading) (scope : Scope) (f : Flag) : Except Detour Reading := do
  let given ← r.settle
  if f.takesValue then return ⟨given, some (f, none)⟩
  else match f with
    | .help => throw (.help scope)
    | .version => throw .version
    | _ => return ⟨← given.add f "", none⟩

/-- An option with a value attached. -/
def takeAttached (r : Reading) (f : Flag) (value : String) : Except Detour Reading :=
  if f.takesValue then do return ⟨← (← r.settle).add f value, none⟩
  else .error (.fault (.needlessValue f value))

/-- `body` follows two dashes: a name, and perhaps an equals sign and a value. -/
def takeLong (r : Reading) (scope : Scope) (body : List Char) : Except Detour Reading :=
  let name := String.ofList (body.takeWhile (· != '='))
  match scope.flag? name, body.dropWhile (· != '=') with
  | none, _ => .error (.fault (.unexpectedArgument ("--" ++ name)))
  | some f, [] => r.takeFlag scope f
  | some f, _ :: value => r.takeAttached f (String.ofList value)

/-- A letter after one dash. Every known one ends the reading, so that no other is looked at. -/
def takeLetter (r : Reading) (scope : Scope) (c : Char) : Except Detour Reading :=
  match scope.flagOfLetter? c with
  | none => .error (.fault (.unexpectedArgument (String.ofList ['-', c])))
  | some f => r.takeFlag scope f

/-- A word that is no option and no value of one. After the mark that ends the options, the name
of a command is out of place. -/
def takeOperand (r : Reading) (scope : Scope) (marked : Bool) (word : String) :
    Except Detour Reading :=
  if scope.takesOperand r.given.operands then do
    let given ← r.settle
    return ⟨{ given with operands := given.operands ++ [word] }, none⟩
  else match scope with
    | .program =>
      if marked && (scope.verb? word).isSome then .error (.fault (.unexpectedArgument word))
      else .error (.fault (.unknownCommand word))
    | .command _ => .error (.fault (.unexpectedArgument word))

/-- Words after the mark that ends the options. -/
def takeOperands (r : Reading) (scope : Scope) : List String → Except Detour Reading
  | [] => .ok r
  | word :: words => do (← r.takeOperand scope true word).takeOperands scope words

def takeWord (r : Reading) (scope : Scope) (word : String) : Except Detour Reading :=
  match word.toList with
  | '-' :: '-' :: body => r.takeLong scope body
  | '-' :: c :: _ => r.takeLetter scope c
  | _ =>
    match r.last with
    | some (f, none) => .ok { r with last := some (f, some word) }
    | _ => r.takeOperand scope false word

/-- The words of a scope, up to a command and the words after it. -/
def scan (scope : Scope) : List String → Reading →
    Except Detour (Reading × Option (Verb × List String))
  | [], r => .ok (r, none)
  | word :: words, r =>
    match if r.awaitsValue then none else scope.verb? word with
    | some v => .ok (r, some (v, words))
    | none =>
      if word = "--" then (r.takeOperands scope words).map (·, none)
      else (r.takeWord scope word).bind (scan scope words)

end Reading

/-- One of the five calls with what its command line gives for it. -/
inductive Command where
  | health
  | capabilities
  | session (user : String) (project : Option String) (userData : Option String)
  | refresh (token : String)
  | logout (token : String)
  deriving DecidableEq, Repr

structure Invocation where
  command : Command
  config : Option String
  baseUrl : Option String
  project : Option String
  logLevel : Option String
  jsonLogs : Bool
  deriving DecidableEq, Repr

namespace Invocation

/-- The command that follows an endpoint's name. -/
def commandOf (e : Endpoint) (given : Given) : Except Detour Command :=
  match e, given.operands with
  | .health, _ => .ok .health
  | .capabilities, _ => .ok .capabilities
  | .session, user :: _ =>
    .ok (.session user (given.value? .sessionProject) (given.value? .userData))
  | .refresh, token :: _ => .ok (.refresh token)
  | .logout, token :: _ => .ok (.logout token)
  | _, [] => .error (.fault .missingOperand)

/-- What is given after the command comes before what is given ahead of it; the environment's base
URL comes last. -/
def ofGiven (command : Command) (outer inner : Given) (baseUrl : Option String) : Invocation :=
  let value (f : Flag) := inner.value? f <|> outer.value? f
  ⟨command, value .config, value .baseUrl <|> baseUrl, value .project, value .logLevel,
    (value .jsonLogs).isSome⟩

/-- The scope that a call for help names. -/
def helpScope : Scope → List String → Detour
  | scope, [] => .help scope
  | scope, word :: words =>
    match scope.verb? word with
    | some v => helpScope (.command v) words
    | none => .fault (.unknownCommand word)

/-- The invocation that the words of a command line make. -/
def ofWords (words : List String) (environment : Environment.Variables) :
    Except Detour Invocation := do
  let baseUrl := environment.lookup baseUrlVariable
  let (reading, command) ← Reading.start |> Reading.scan .program words
  match command with
  | some (.help, words) => throw (helpScope .program words)
  | some (.call e, words) =>
    let (inside, _) ← Reading.start |> Reading.scan (.command (.call e)) words
    let inner ← inside.settle
    let command ← commandOf e inner
    let outer ← reading.settle
    return ofGiven command outer inner baseUrl
  | none =>
    let outer ← reading.settle
    throw (.fault (if outer.flags.isEmpty && baseUrl.isNone then .nothingAsked else .noCommand))

end Invocation

namespace UsageFault

open Terminal (Styled)

/-- What is wrong, after the word for a fault. -/
def complaint : UsageFault → Styled
  | nothingAsked => [(.plain, programAbout)]
  | noCommand =>
    [(.plain, "'"), (.culprit, programName),
      (.plain, "' requires a subcommand but one was not provided")]
  | unknownCommand word =>
    [(.plain, "unrecognized subcommand '"), (.culprit, word), (.plain, "'")]
  | unexpectedArgument word =>
    [(.plain, "unexpected argument '"), (.culprit, word), (.plain, "' found")]
  | missingOperand => [(.plain, "the following required arguments were not provided:")]
  | missingValue flag =>
    [(.plain, "a value is required for '"), (.culprit, flag.label),
      (.plain, "' but none was supplied")]
  | needlessValue flag value =>
    [(.plain, "unexpected value '"), (.culprit, value), (.plain, "' for '"),
      (.literal, flag.label), (.plain, "' found; no more were expected")]
  | repeatedFlag flag =>
    [(.plain, "the argument '"), (.culprit, flag.label),
      (.plain, "' cannot be used multiple times")]

/-- What is said of a fault. Where nothing is asked, that is no fault by its words. -/
def message (f : UsageFault) : Styled :=
  if f = .nothingAsked then f.complaint
  else (.fault, "error:") :: (.plain, " ") :: f.complaint

/-- The first line that is said of a fault. -/
def headline (colours : Bool) (f : UsageFault) : String :=
  String.ofList ((f.message.shown colours).toList.takeWhile (· != '\n'))

end UsageFault

end SessionGateway.Probe
