import SessionGateway.Client.Conduct

/-! Runs of calls by one client. The clock, the nonce source and the transport are streams of
answers, and the only state is how far each has been read. -/

namespace SessionGateway

structure Sources where
  clock : Nat → Millis
  suffix : Nat → String

/-- What a client is told: the answers to the `n`-th question of each kind. -/
structure Answers extends Sources where
  reply : Nat → Reply
  /-- The milliseconds that the reply takes. -/
  elapsed : Nat → String

/-- How often each kind of question has been asked. -/
structure Asked where
  clock : Nat
  suffix : Nat
  reply : Nat
  deriving DecidableEq, Repr

def Asked.none : Asked := ⟨0, 0, 0⟩

/-- The request of a call that finds the sources read so far. -/
def Call.requestFrom (config : ClientConfig) (sources : Sources) (asked : Asked) (call : Call) :
    Request :=
  call.request config (sources.clock asked.clock) (sources.suffix asked.suffix)

/-- A client's dealings, seen from outside. -/
structure Performed (α : Type) where
  result : α
  sent : List Request
  log : List LogEvent
  asked : Asked

def Conduct.perform {α : Type} (answers : Answers) : Asked → Conduct α → Performed α
  | asked, done result => ⟨result, [], [], asked⟩
  | asked, readsClock next =>
    (next (answers.clock asked.clock)).perform answers { asked with clock := asked.clock + 1 }
  | asked, asksSuffix next =>
    (next (answers.suffix asked.suffix)).perform answers { asked with suffix := asked.suffix + 1 }
  | asked, sends request next =>
    let rest := (next (answers.reply asked.reply) (answers.elapsed asked.reply)).perform answers
      { asked with reply := asked.reply + 1 }
    { rest with sent := request :: rest.sent }
  | asked, tells event rest =>
    let rest := rest.perform answers asked
    { rest with log := event :: rest.log }

/-- One call of a run. -/
abbrev Step := Performed Outcome

/-- A client, and how far it has got with its sources. -/
structure Client where
  config : ClientConfig
  asked : Asked

namespace Client

/-- A client that has made no call. -/
def fresh (config : ClientConfig) : Client := ⟨config, .none⟩

/-- A client with the transport of its calls, which is built for the time that a call may take. -/
def create {Transport : Type} (build : Duration → Except String Transport) (config : ClientConfig) :
    Except Failure (Client × Transport) := do
  let timeout ← config.timeout.mapError TimeoutFault.failure
  let transport ← (build timeout).mapError fun detail =>
    .invalidConfig ("failed to build HTTP client: " ++ detail)
  return (fresh config, transport)

def step (answers : Answers) (client : Client) (call : Call) : Step :=
  (call.conduct client.config).perform answers client.asked

/-- The client after a call. -/
def next (answers : Answers) (client : Client) (call : Call) : Client :=
  { client with asked := (client.step answers call).asked }

def run (answers : Answers) : Client → List Call → List Step
  | _, [] => []
  | client, call :: calls =>
    client.step answers call :: run answers (client.next answers call) calls

/-- The client after a run. -/
def after (answers : Answers) (client : Client) (calls : List Call) : Client :=
  calls.foldl (next answers) client

end Client

end SessionGateway
