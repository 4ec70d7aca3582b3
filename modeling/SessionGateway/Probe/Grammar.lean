import SessionGateway.Endpoint

/-! The words of the probe's command line: its commands, their operands, and the options that are
known to the program and to each command. -/

namespace SessionGateway.Probe

def programName : String := "caas-probe"

def programVersion : String := "0.1.0"

/-- What the program is for. -/
def programAbout : String := "Probe a CaaS gateway's SDK API"

/-- The environment variable that stands in for `--base-url`. -/
def baseUrlVariable : String := "CAAS_BASE_URL"

/-- What may stand in the place of a command. -/
inductive Verb where
  | call (e : Endpoint)
  | help
  deriving DecidableEq, Repr

namespace Verb

/-- In the order of the help text. -/
def all : List Verb := Endpoint.all.map call ++ [help]

def name : Verb → String
  | call e => e.name
  | help => "help"

def ofName? (word : String) : Option Verb := all.find? (·.name == word)

/-- What a command needs after its name. -/
def operand? : Verb → Option String
  | call .session => some "USER_EXTERNAL_ID"
  | call .refresh => some "REFRESH_TOKEN"
  | call .logout => some "ACCESS_TOKEN"
  | _ => none

end Verb

/-- The options, of which some are switches without a value. -/
inductive Flag where
  | config
  | baseUrl
  | project
  | logLevel
  | jsonLogs
  | sessionProject
  | userData
  | help
  | version
  deriving DecidableEq, Repr

namespace Flag

def name : Flag → String
  | config => "config"
  | baseUrl => "base-url"
  | project => "project"
  | logLevel => "log-level"
  | jsonLogs => "json-logs"
  | sessionProject => "session-project"
  | userData => "user-data"
  | help => "help"
  | version => "version"

/-- A second name of one letter. -/
def letter? : Flag → Option Char
  | help => some 'h'
  | version => some 'V'
  | _ => none

/-- What the value of an option is called; switches have none. -/
def valueName? : Flag → Option String
  | config => some "CONFIG"
  | baseUrl => some "BASE_URL"
  | project => some "PROJECT"
  | logLevel => some "LOG_LEVEL"
  | sessionProject => some "PROJECT_ID"
  | userData => some "USER_DATA"
  | jsonLogs | help | version => none

def takesValue (f : Flag) : Bool := f.valueName?.isSome

/-- The value of an option, as it is told of. -/
def valueLabel (f : Flag) : String := f.valueName?.elim "" fun v => " <" ++ v ++ ">"

/-- How an option is told of. -/
def label (f : Flag) : String := "--" ++ f.name ++ f.valueLabel

/-- Options of every command, which may also stand before it. -/
def shared : List Flag := [config, baseUrl, project, logLevel, jsonLogs]

/-- A file has a name; every other value may be empty. -/
def accepts : Flag → String → Bool
  | config, value => !value.isEmpty
  | _, _ => true

end Flag

/-- Where on the command line an argument stands: before a command, or after it. -/
inductive Scope where
  | program
  | command (v : Verb)
  deriving DecidableEq, Repr

namespace Scope

/-- The options known there, in the order of the help text. -/
def flags : Scope → List Flag
  | program => Flag.shared ++ [.help, .version]
  | command (.call .session) => [.sessionProject, .userData] ++ Flag.shared ++ [.help]
  | command _ => Flag.shared ++ [.help]

def flag? (s : Scope) (name : String) : Option Flag := s.flags.find? (·.name == name)

def flagOfLetter? (s : Scope) (c : Char) : Option Flag := s.flags.find? (·.letter? == some c)

/-- The command that a word names; after a command there is no other. -/
def verb? : Scope → String → Option Verb
  | program, word => Verb.ofName? word
  | command _, _ => none

/-- Whether another operand can follow those that are there. -/
def takesOperand : Scope → List String → Bool
  | program, _ => false
  | command v, operands => v.operand?.isSome && operands.isEmpty

end Scope

end SessionGateway.Probe
