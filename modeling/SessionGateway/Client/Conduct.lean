import SessionGateway.Client.Event

/-! What a client does in a call, one dealing with its surroundings after the other: it reads the
clock, asks for a nonce suffix, hands a request to the transport, or says something in the log, and
goes on with what it is told. -/

namespace SessionGateway

/-- The ways to an `α`, for every answer that the surroundings may give. -/
inductive Conduct (α : Type) where
  | done (result : α)
  | readsClock (next : Millis → Conduct α)
  | asksSuffix (next : String → Conduct α)
  /-- The reply comes with the milliseconds that it took. -/
  | sends (request : Request) (next : Reply → String → Conduct α)
  | tells (event : LogEvent) (rest : Conduct α)

namespace Conduct

variable {α β : Type}

def bind : Conduct α → (α → Conduct β) → Conduct β
  | done a, f => f a
  | readsClock next, f => readsClock fun now => (next now).bind f
  | asksSuffix next, f => asksSuffix fun suffix => (next suffix).bind f
  | sends request next, f => sends request fun reply elapsed => (next reply elapsed).bind f
  | tells event rest, f => tells event (rest.bind f)

instance : Monad Conduct where
  pure := done
  bind := bind

def now : Conduct Millis := readsClock done

def suffix : Conduct String := asksSuffix done

def reply (request : Request) : Conduct (Reply × String) :=
  sends request fun reply elapsed => done (reply, elapsed)

def say (event : LogEvent) : Conduct Unit := tells event (done ())

end Conduct

/-- The headers of a call. Only one with a nonce asks for a suffix. -/
def ClientConfig.headers (config : ClientConfig) (options : HeaderOptions)
    (project : Option String) : Conduct HeaderList := do
  let now ← Conduct.now
  let suffix ← if options.idempotency then Conduct.suffix else pure ""
  return buildHeaders config options project now suffix

/-- What comes of a response. A refusal is told of. -/
def Response.conclude (endpoint : Endpoint) (response : Response) (elapsed : String) :
    Conduct Outcome := do
  if response.status ≥ 400 then
    Conduct.say ((CallEvent.rejected endpoint response.status).logged elapsed)
  return response.outcome endpoint

/-- One exchange, whose reply decides what is told of it and what comes of it. -/
def Request.conduct (request : Request) : Conduct Outcome := do
  let correlationId := (request.headers.get? HeaderName.correlationId).getD ""
  let (reply, elapsed) ← Conduct.reply request
  match reply with
  | .error failure =>
    Conduct.say
      ((CallEvent.failed request.method request.endpoint correlationId failure).logged elapsed)
    return .error failure
  | .ok response =>
    Conduct.say
      ((CallEvent.answered request.method request.endpoint correlationId response.status).logged
        elapsed)
    response.conclude request.endpoint elapsed

/-- What a client does for a call. -/
def Call.conduct (config : ClientConfig) (call : Call) : Conduct Outcome := do
  let headers ← config.headers call.options (call.project config)
  let headers := headers.set? HeaderName.authorization call.authorization
  Request.conduct
    ⟨call.method, call.endpoint, config.url call.endpoint, headers, call.body config⟩

end SessionGateway
