import SessionGateway.Client.Call
import SessionGateway.Log

/-! What comes of a call, where the answer's status and text decide, and what a client says of
it. -/

namespace SessionGateway

structure Response where
  status : Nat
  body : String
  deriving DecidableEq, Repr

/-- What a transport makes of a request. -/
abbrev Reply := Except Failure Response

/-- A value, or nothing where the gateway has no content to give. -/
abbrev Outcome := Except Failure (Option Json)

def Response.outcome (endpoint : Endpoint) (response : Response) : Outcome :=
  if response.status ≥ 400 then .error (.refusal endpoint response.status response.body)
  else if response.status = 204 then .ok none
  else match Json.ofText response.body with
    | .ok v => .ok (some v)
    | .error e => .error (.decode (endpoint.path ++ " returned invalid JSON: " ++ e.message))

def Reply.outcome (endpoint : Endpoint) : Reply → Outcome
  | .error failure => .error failure
  | .ok response => response.outcome endpoint

inductive CallEvent where
  | failed (method : Method) (endpoint : Endpoint) (correlationId : String) (failure : Failure)
  | answered (method : Method) (endpoint : Endpoint) (correlationId : String) (status : Nat)
  | rejected (endpoint : Endpoint) (status : Nat)
  deriving DecidableEq, Repr

namespace CallEvent

/-- The event as it is logged; `elapsed` is the time the exchange took, in milliseconds. -/
def logged (elapsed : String) : CallEvent → LogEvent
  | failed method endpoint correlationId failure =>
    ⟨.debug, "caas_sdk::client", "Gateway request failed",
      [("method", .text method.name), ("path", .text endpoint.path),
        ("correlation_id", .text correlationId), ("duration_ms", .text elapsed),
        ("error", .text failure.message)],
      []⟩
  | answered method endpoint correlationId status =>
    ⟨.debug, "caas_sdk::client", "Gateway request",
      [("method", .text method.name), ("path", .text endpoint.path),
        ("correlation_id", .text correlationId), ("status", .text (toString status)),
        ("duration_ms", .text elapsed)],
      []⟩
  | rejected endpoint status =>
    ⟨.warn, "caas_sdk::client", "Gateway rejected request",
      [("path", .text endpoint.path), ("status", .text (toString status))], []⟩

end CallEvent

/-- One event for the exchange, and one more for a refusal. -/
def Request.events (request : Request) (reply : Reply) : List CallEvent :=
  let correlationId := (request.headers.get? HeaderName.correlationId).getD ""
  match reply with
  | .error failure => [.failed request.method request.endpoint correlationId failure]
  | .ok response =>
    .answered request.method request.endpoint correlationId response.status ::
      if response.status ≥ 400 then [.rejected request.endpoint response.status] else []

end SessionGateway
