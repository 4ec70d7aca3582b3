/-! The five operations of the gateway, where each is found, and the header names they use. -/

namespace SessionGateway

inductive Endpoint where
  | health
  | capabilities
  | session
  | refresh
  | logout
  deriving DecidableEq, Repr

namespace Endpoint

/-- In the order of the API reference. -/
def all : List Endpoint := [.health, .capabilities, .session, .refresh, .logout]

/-- The name in JSON texts. -/
def name : Endpoint → String
  | health => "health"
  | capabilities => "capabilities"
  | session => "session"
  | refresh => "refresh"
  | logout => "logout"

/-- The name in shown records. -/
def title : Endpoint → String
  | health => "Health"
  | capabilities => "Capabilities"
  | session => "Session"
  | refresh => "Refresh"
  | logout => "Logout"

/-- Below the base URL. -/
def path (e : Endpoint) : String := "/api/v1/sdk/" ++ e.name

def ofName? (s : String) : Option Endpoint := all.find? (·.name == s)

end Endpoint

namespace HeaderName

def contentType := "content-type"
def correlationId := "x-correlation-id"
def apiKey := "x-api-key"
def projectId := "x-project-id"
def idempotencyKey := "idempotency-key"
def timestamp := "x-timestamp"
def nonce := "x-nonce"
def authorization := "authorization"

def all : List String :=
  [contentType, correlationId, apiKey, projectId, idempotencyKey, timestamp, nonce, authorization]

end HeaderName

/-- The content type of every call. -/
def jsonMediaType := "application/json"

end SessionGateway
