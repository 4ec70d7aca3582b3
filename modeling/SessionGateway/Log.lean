/-! Events of a program's log, with named values. -/

namespace SessionGateway

inductive LogLevel where
  | trace
  | debug
  | info
  | warn
  | error
  deriving DecidableEq, Repr

namespace LogLevel

def name : LogLevel → String
  | trace => "TRACE"
  | debug => "DEBUG"
  | info => "INFO"
  | warn => "WARN"
  | error => "ERROR"

/-- From the most talkative level, zero, to the least. -/
def severity : LogLevel → Nat
  | trace => 0
  | debug => 1
  | info => 2
  | warn => 3
  | error => 4

end LogLevel

inductive LogValue where
  | text (s : String)
  | count (n : Nat)
  deriving DecidableEq, Repr

def LogValue.shown : LogValue → String
  | text s => s
  | count n => toString n

structure LogEvent where
  level : LogLevel
  /-- The part of the program that speaks. -/
  target : String
  message : String
  fields : List (String × LogValue)
  /-- Names of values that are there but not shown. -/
  unshown : List String
  deriving DecidableEq, Repr

/-- The names of an event's parts, its message included. -/
def LogEvent.names (e : LogEvent) : List String :=
  "message" :: e.fields.map Prod.fst ++ e.unshown

end SessionGateway
