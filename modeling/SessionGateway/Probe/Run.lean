import SessionGateway.Client.Run
import SessionGateway.Http.Exchange
import SessionGateway.Log.Filter
import SessionGateway.Log.Line
import SessionGateway.Probe.Help
import SessionGateway.Probe.Invocation
import SessionGateway.Settings.Load

/-! Runs of the probe: settings are loaded, one call is made, and its outcome is reported on the
standard output, in the log, and by the exit code. -/

namespace SessionGateway.Probe

/-- Why a run that was asked for properly gives no result. -/
inductive Fault where
  | settings (fault : SettingsFault)
  | userData (error : JsonText.ReadError)
  | call (failure : Failure)

def Fault.shown : Fault → String
  | settings fault =>
    Text.quoted ("Failed to load configuration: " ++ fault.message ++
      ". Make sure caas.toml exists or set CAAS__GATEWAY__BASE_URL and CAAS__GATEWAY__API_KEY.")
  | userData error =>
    Text.quoted ("--user-data must be a JSON object: " ++ error.message)
  | call failure => failure.shown

inductive Ending where
  /-- The text is all there is to say. -/
  | done (output : String)
  /-- The fault is told of, in colours or without. -/
  | misused (colours : Bool) (fault : UsageFault)
  | failed (fault : Fault)

namespace Ending

def exitCode : Ending → Nat
  | done _ => 0
  | misused .. => 2
  | failed _ => 1

def output : Ending → String
  | done text => text
  | _ => ""

/-- What is said of a fault after the log. -/
def complaint : Ending → Option String
  | done _ => none
  | misused colours fault => some (fault.headline colours)
  | failed fault => some ("Error: " ++ fault.shown)

end Ending

structure Report where
  log : List LogLine
  ending : Ending

/-- Whether texts are written in colours, which the environment may forbid or force; else they are
on terminals that are said to have some. -/
def usesColours (environment : Environment.Variables) (terminal : Bool) : Bool :=
  let value (name : String) := (environment.lookup name).getD ""
  if value "NO_COLOR" ≠ "" then false
  else if value "CLICOLOR_FORCE" ≠ "" then true
  else match environment.lookup "CLICOLOR" with
    | some choice => choice ≠ "0" && terminal
    | none =>
      let known := value "TERM" ≠ "" && value "TERM" ≠ "dumb"
      terminal && ((environment.lookup "CI").isSome || known)

/-- What is said instead of a run. -/
def Detour.report (environment : Environment.Variables) (terminal : Bool) (d : Detour) : Report :=
  let colours := usesColours environment terminal
  match d with
  | help scope => ⟨[], .done ((scope.help (environment.lookup baseUrlVariable)).shown colours)⟩
  | version => ⟨[], .done (programName ++ " " ++ programVersion ++ "\n")⟩
  | fault f => ⟨[], .misused colours f⟩

/-- Options that are given replace what was loaded. -/
def Invocation.override (i : Invocation) (settings : ProbeSettings) : ProbeSettings :=
  { settings with gateway :=
    { settings.gateway with
      baseUrl := i.baseUrl.getD settings.gateway.baseUrl
      projectId := i.project <|> settings.gateway.projectId } }

/-- The environment variable that holds a log filter. -/
def filterVariable : String := "RUST_LOG"

/-- How a run logs. -/
structure Logging where
  filter : LogFilter
  json : Bool

namespace Logging

/-- The filter of the environment if it can be read, else that of the level. -/
def chosen (filter : Option String) (level : String) (json : Bool) : List LogLine × Logging :=
  match filter.bind LogFilter.ofText? with
  | some filter => ([], ⟨filter, json⟩)
  | none =>
    let (notices, filter) := LogFilter.ofReadable level
    (notices.map .notice, ⟨filter, json⟩)

/-- The lines of the events that are shown. -/
def lines (l : Logging) (events : List LogEvent) : List LogLine :=
  (events.filter l.filter.shows).map (·.written l.json)

end Logging

def target : String := "caas_probe"

def probing (config : ClientConfig) : LogEvent :=
  ⟨.info, target, "Probing gateway at " ++ config.baseUrl, [], []⟩

/-- What is said of the answer to a call for tokens. -/
def tokensEvent (answer : Json) : LogEvent :=
  match TokenBundle.ofJson answer with
  | .ok bundle =>
    ⟨.info, target, "Session tokens issued",
      [("token_type", .text bundle.tokenType), ("expires_in", .count bundle.expiresIn)], []⟩
  | .error mismatch =>
    ⟨.warn, target,
      "Response is not a token bundle: " ++ mismatch.text JsonText.wording, [], []⟩

/-- Values that the connections' own events carry besides. -/
def placeNames : List String := ["log.target", "log.module_path", "log.file", "log.line"]

/-- What is said of an exchange on its way. -/
def noteEvent : Http.Note → LogEvent
  | .seeking place =>
    ⟨.debug, "reqwest::connect", "starting new connection: " ++ place, [], placeNames⟩
  | .diverted proxy place =>
    ⟨.debug, "reqwest::connect", "proxy(" ++ proxy.text ++ ") intercepts '" ++ place ++ "'", [],
      placeNames⟩
  | .dialling address =>
    ⟨.debug, "hyper_util::client::legacy::connect::http", "connecting to " ++ address.text, [], []⟩
  | .dialled address =>
    ⟨.debug, "hyper_util::client::legacy::connect::http", "connected to " ++ address.text, [], []⟩
  | .settled => ⟨.trace, "reqwest::retry", "shouldn't retry!", [], placeNames⟩

def noContent : LogEvent := ⟨.info, target, "Gateway returned no content", [], []⟩

/-- The call that a command makes. -/
def Command.call : Command → Except JsonText.ReadError Call
  | health => .ok .health
  | capabilities => .ok .capabilities
  | session user project none => .ok (.sessionFor user project)
  | session user project (some text) => do
    let data ← JsonText.readField? JsonText.mapField text
    return .session { SessionPayload.new user with projectId := project, userData := some data }
  | refresh token => .ok (.refresh token)
  | logout token => .ok (.logout token)

/-- Calls whose answers are tokens. -/
def issuesTokens : Call → Bool
  | .session _ | .refresh _ => true
  | _ => false

/-- What is said of an outcome besides the client's own events. -/
def outcomeEvents (call : Call) : Outcome → List LogEvent
  | .error _ => []
  | .ok none => [noContent]
  | .ok (some answer) => if issuesTokens call then [tokensEvent answer] else []

def ending : Outcome → Ending
  | .error failure => .failed (.call failure)
  | .ok none => .done ""
  | .ok (some answer) => .done (answer.spreadText ++ "\n")

/-- A run that is ready to make its call. -/
structure Prepared where
  log : List LogLine
  logging : Logging
  config : ClientConfig
  timeout : Duration
  call : Call

/-- Everything up to the call; nothing is sent yet. -/
def prepare (directory : Directory) (environment : Environment.Variables) (i : Invocation) :
    Except Report Prepared :=
  match ProbeSettings.load directory environment i.config with
  | .error fault => .error ⟨[], .failed (.settings fault)⟩
  | .ok loaded =>
    let settings := i.override loaded
    let (notices, logging) := Logging.chosen (environment.lookup filterVariable)
      (i.logLevel.getD settings.logging.level) (i.jsonLogs || settings.logging.json)
    let config := settings.gateway.clientConfig
    let log := notices ++ logging.lines [probing config]
    match config.timeout, i.command.call with
    | .error fault, _ => .error ⟨log, .failed (.call fault.failure)⟩
    | .ok _, .error error => .error ⟨log, .failed (.userData error)⟩
    | .ok timeout, .ok call => .ok ⟨log, logging, config, timeout, call⟩

/-- The proxies that the environment names. -/
def proxiesOf (environment : Environment.Variables) : Http.Proxies :=
  .ofVariables fun name => environment.lookup name

namespace Prepared

def request (p : Prepared) (now : Millis) (suffix : String) : Request :=
  p.call.request p.config now suffix

/-- What is reported after the reply to the request, which took `elapsed` milliseconds. -/
def report (p : Prepared) (request : Request) (reply : Reply) (elapsed : String) : Report :=
  let outcome := reply.outcome p.call.endpoint
  let events := (request.events reply).map (·.logged elapsed) ++ outcomeEvents p.call outcome
  ⟨p.logging.lines events, ending outcome⟩

end Prepared

/-- What a run finds around it. -/
structure Surroundings where
  directory : Directory
  environment : Environment.Variables
  network : Http.Network
  now : Millis
  suffix : String
  /-- The milliseconds that the exchange takes. -/
  elapsed : String

/-- A whole run: the requests on the wire, and the report. -/
def run (s : Surroundings) (words : List String) : List Http.WireRequest × Report :=
  match Invocation.ofWords words s.environment with
  | .error detour => ([], detour.report s.environment false)
  | .ok invocation =>
    match prepare s.directory s.environment invocation with
    | .error report => ([], report)
    | .ok prepared =>
      let request := prepared.request s.now s.suffix
      let proxies := proxiesOf s.environment
      let (requests, reply) := Http.exchangeVia proxies s.network request
      let notes := ((Http.dialogue proxies request).notes s.network 0).map noteEvent
      let last := prepared.report request reply s.elapsed
      (requests, ⟨prepared.log ++ prepared.logging.lines notes ++ last.log, last.ending⟩)

end SessionGateway.Probe
