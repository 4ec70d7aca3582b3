import SessionGateway.Client.Failure
import SessionGateway.Number.Binary64
import SessionGateway.Number.Shortest
import SessionGateway.Text.Ascii

/-! The settings of a client, and the time a call may take as whole seconds and nanoseconds. -/

namespace SessionGateway

structure Duration where
  seconds : Nat
  nanoseconds : Nat
  deriving DecidableEq, Repr

namespace Duration

def ofNanoseconds (n : Nat) : Duration := ⟨n / power 10 9, n % power 10 9⟩

def totalNanoseconds (d : Duration) : Nat := d.seconds * power 10 9 + d.nanoseconds

/-- The nearest nanosecond, a tie to the even one; none from `2 ^ 64` seconds on. -/
def ofSeconds? (x : Binary64) : Option Duration :=
  let whole := x.significand * power 2 x.exponent.toNat
  let unit := power 2 (-x.exponent).toNat
  if x.isFinite && whole < power 2 64 * unit then
    some (ofNanoseconds (roundHalfEven (whole * power 10 9) unit))
  else none

end Duration

/-- Why a number of seconds is no timeout. -/
inductive TimeoutFault where
  | notPositive (x : Binary64)
  | tooLarge
  deriving DecidableEq, Repr

def TimeoutFault.failure : TimeoutFault → Failure
  | notPositive x =>
    .invalidConfig ("timeout must be positive, got " ++ NumberLayout.plain.write x)
  | tooLarge =>
    .invalidConfig ("invalid timeout: cannot convert float seconds to Duration: " ++
      "value is either too big or NaN")

structure ClientConfig where
  /-- Without slashes at its end. -/
  baseUrl : String
  apiKey : String
  /-- Never empty. -/
  projectId : Option String
  timeoutSeconds : Binary64
  deriving DecidableEq, Repr

/-- A text that is not empty. -/
def nonempty? (s : String) : Option String := if s.isEmpty then none else some s

namespace ClientConfig

def defaultTimeout : Binary64 := .ofInt 10

def new (baseUrl apiKey : String) : ClientConfig :=
  ⟨Text.trimTrailing '/' baseUrl, apiKey, none, defaultTimeout⟩

/-- The project of calls that name none; an empty one resets it. -/
def withProjectId (c : ClientConfig) (project : String) : ClientConfig :=
  { c with projectId := nonempty? project }

def withTimeout (c : ClientConfig) (seconds : Binary64) : ClientConfig :=
  { c with timeoutSeconds := seconds }

def timeout (c : ClientConfig) : Except TimeoutFault Duration :=
  if c.timeoutSeconds.isNaN || c.timeoutSeconds.isNonpositive then
    .error (.notPositive c.timeoutSeconds)
  else match Duration.ofSeconds? c.timeoutSeconds with
    | some d => .ok d
    | none => .error .tooLarge

def url (c : ClientConfig) (e : Endpoint) : String := c.baseUrl ++ e.path

/-- The key is not shown. -/
def shownFields (baseUrl : String) (projectId : Option String) (timeout : Binary64) :
    List (String × String) :=
  [("base_url", Text.quoted baseUrl), ("api_key", Text.quoted "<redacted>"),
    ("project_id", Text.shownOption Text.quoted projectId),
    ("timeout_secs", NumberLayout.shown.write timeout)]

def shown (c : ClientConfig) : String :=
  Text.shownRecord "ClientConfig" (shownFields c.baseUrl c.projectId c.timeoutSeconds)

end ClientConfig

end SessionGateway
