import SessionGateway.Json.Value
import SessionGateway.Log
import SessionGateway.Text.Ascii

/-! Log lines without their time: for people, or as JSON objects. -/

namespace SessionGateway

/-- Levels are as wide as the widest of them. -/
def LogLevel.column (level : LogLevel) : String :=
  String.ofList (List.replicate (5 - level.name.length) ' ') ++ level.name

def LogValue.toJson : LogValue → Json
  | text s => .string s
  | count n => .integer n

/-- Characters that could steer a terminal are written as escapes: by two digits, or as long as
need be beyond the ASCII range. -/
def steeringEscape? (c : Char) : Option (List Char) :=
  let hex := Text.hexText c.toNat
  if ['\x07', '\x08', '\x0c', '\x1b', '\x7f'].contains c then
    some ("\\x".toList ++ List.replicate (2 - hex.length) '0' ++ hex)
  else if 0x80 ≤ c.toNat && c.toNat ≤ 0x9F then some ("\\u\x7b".toList ++ hex ++ ['\x7d'])
  else none

def harmless (message : String) : String :=
  String.ofList (message.toList.flatMap fun c => (steeringEscape? c).getD [c])

namespace LogEvent

/-- Values are written as they are. -/
def line (e : LogEvent) : String :=
  " ".intercalate
    (e.level.column :: harmless e.message :: e.fields.map fun f => f.1 ++ "=" ++ f.2.shown)

/-- The members of an event as an object. -/
def members (e : LogEvent) : Members :=
  [("level", .string e.level.name),
    ("fields", .object (("message", .string e.message) ::
      e.fields.map fun f => (f.1, f.2.toJson))),
    ("target", .string e.target)]

end LogEvent

/-- A line of a log as it is kept: a notice that is no event, or an event, either as a text or as
the members of an object. -/
inductive LogLine where
  | notice (text : String)
  | plain (text : String)
  | object (members : Members)

def LogEvent.written (json : Bool) (e : LogEvent) : LogLine :=
  if json then .object e.members else .plain e.line

end SessionGateway
