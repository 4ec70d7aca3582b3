import SessionGateway.Endpoint
import SessionGateway.Text.Quoted

/-! How a call fails: no answer, a refusal, an answer that is no JSON, or settings that allow no
call. -/

namespace SessionGateway

inductive Failure where
  | transport (detail : String)
  | gateway (endpoint : Endpoint) (status : Nat) (body : String)
  | decode (detail : String)
  | invalidConfig (detail : String)
  deriving DecidableEq, Repr

namespace Failure

/-- Characters of a refusal's body that are kept. -/
def bodyLimit : Nat := 180

/-- Statuses that another attempt may get past. -/
def retryableStatuses : List Nat := [429, 500, 502, 503, 504]

/-- A refusal with the start of its body. -/
def refusal (endpoint : Endpoint) (status : Nat) (body : String) : Failure :=
  .gateway endpoint status (String.ofList (body.toList.take bodyLimit))

def status? : Failure → Option Nat
  | gateway _ status _ => some status
  | _ => none

def isRetryable : Failure → Bool
  | transport _ => true
  | gateway _ status _ => retryableStatuses.contains status
  | _ => false

def message : Failure → String
  | transport detail => "Transport error: " ++ detail
  | gateway endpoint status body =>
    "Gateway rejected " ++ endpoint.path ++ " (" ++ toString status ++ "): " ++ body
  | decode detail => "Decode error: " ++ detail
  | invalidConfig detail => "Invalid configuration: " ++ detail

def shown : Failure → String
  | transport detail => "Transport(" ++ Text.quoted detail ++ ")"
  | gateway endpoint status body =>
    Text.shownRecord "Gateway"
      [("endpoint", endpoint.title), ("status", toString status), ("body", Text.quoted body)]
  | decode detail => "Decode(" ++ Text.quoted detail ++ ")"
  | invalidConfig detail => "InvalidConfig(" ++ Text.quoted detail ++ ")"

end Failure

end SessionGateway
