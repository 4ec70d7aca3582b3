import SessionGateway.Client.Config
import SessionGateway.Client.Header
import SessionGateway.Client.Nonce
import SessionGateway.Session.Payload

/-! The calls of the gateway's API and the one request that each makes. -/

namespace SessionGateway

/-- Which headers a call carries besides its content type and correlation id. -/
structure HeaderOptions where
  apiKey : Bool
  projectId : Bool
  /-- The idempotency key, the timestamp and the nonce. -/
  idempotency : Bool
  deriving DecidableEq, Repr

namespace HeaderOptions

def standard : HeaderOptions := ⟨true, true, false⟩

def session : HeaderOptions := { standard with idempotency := true }

/-- For calls that a token authenticates. -/
def tokenOnly : HeaderOptions := ⟨false, false, false⟩

end HeaderOptions

/-- The first project that is not empty: the argument, then the configured one. -/
def resolveProject (argument configured : Option String) : Option String :=
  (argument.bind nonempty?) <|> (configured.bind nonempty?)

/-- The headers of a call made at `now`, whose nonce ends in `suffix` if it has one. -/
def buildHeaders (config : ClientConfig) (options : HeaderOptions) (project : Option String)
    (now : Millis) (suffix : String) : HeaderList :=
  let optional (wanted : Bool) (value : Option String) := if wanted then value else none
  HeaderList.empty
    |>.set HeaderName.contentType jsonMediaType
    |>.set HeaderName.correlationId (correlationId now)
    |>.set? HeaderName.apiKey (optional options.apiKey config.apiKey)
    |>.set? HeaderName.projectId
      (optional options.projectId (resolveProject project config.projectId))
    |>.set? HeaderName.idempotencyKey (optional options.idempotency (idempotencyKey now))
    |>.set? HeaderName.timestamp
      (optional options.idempotency (toString (Millis.seconds now)))
    |>.set? HeaderName.nonce (optional options.idempotency (nonceText now suffix))

inductive Method where
  | get
  | post
  deriving DecidableEq, Repr

def Method.name : Method → String
  | get => "GET"
  | post => "POST"

structure Request where
  method : Method
  endpoint : Endpoint
  url : String
  headers : HeaderList
  body : Option Json

/-- A call of the API with its arguments. -/
inductive Call where
  | health
  | capabilities
  | session (payload : SessionPayload)
  | refresh (token : String)
  | logout (token : String)

namespace Call

/-- A session for a user, in a project if one is named. -/
def sessionFor (user : String) (project : Option String) : Call :=
  .session { SessionPayload.new user with projectId := project }

def endpoint : Call → Endpoint
  | health => .health
  | capabilities => .capabilities
  | session _ => .session
  | refresh _ => .refresh
  | logout _ => .logout

def method : Call → Method
  | health | capabilities => .get
  | _ => .post

def options : Call → HeaderOptions
  | health | capabilities => .standard
  | session _ => .session
  | refresh _ | logout _ => .tokenOnly

/-- The project that the call names, or else the configured one. -/
def project (config : ClientConfig) : Call → Option String
  | session payload => resolveProject payload.projectId config.projectId
  | _ => none

def body (config : ClientConfig) : Call → Option Json
  | session payload =>
    some ({ payload with
      projectId := resolveProject payload.projectId config.projectId }.toJson)
  | refresh token => some (RefreshRequest.toJson ⟨token⟩)
  | _ => none

/-- The token of a logout travels as a bearer credential. -/
def authorization : Call → Option String
  | logout token => some ("Bearer " ++ token)
  | _ => none

def headers (config : ClientConfig) (call : Call) (now : Millis) (suffix : String) : HeaderList :=
  (buildHeaders config call.options (call.project config) now suffix).set?
    HeaderName.authorization call.authorization

def request (config : ClientConfig) (call : Call) (now : Millis) (suffix : String) : Request :=
  ⟨call.method, call.endpoint, config.url call.endpoint, call.headers config now suffix,
    call.body config⟩

end Call

end SessionGateway
