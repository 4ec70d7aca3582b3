import SessionGateway.Client.Config
import SessionGateway.Record.Text
import SessionGateway.Record.Value

/-! The settings of the probe: where the gateway is and how to log. -/

namespace SessionGateway

structure GatewaySettings where
  baseUrl : String
  apiKey : String
  projectId : Option String
  timeoutSeconds : Binary64
  deriving DecidableEq, Repr

structure LoggingSettings where
  level : String
  /-- Log lines are JSON objects. -/
  json : Bool
  deriving DecidableEq, Repr

structure ProbeSettings where
  gateway : GatewaySettings
  logging : LoggingSettings
  deriving DecidableEq, Repr

namespace GatewaySettings

def clientConfig (g : GatewaySettings) : ClientConfig :=
  let config := (ClientConfig.new g.baseUrl g.apiKey).withTimeout g.timeoutSeconds
  match g.projectId with
  | some project => config.withProjectId project
  | none => config

/-- The key is not shown. -/
def shown (g : GatewaySettings) : String :=
  Text.shownRecord "GatewaySettings"
    (ClientConfig.shownFields g.baseUrl g.projectId g.timeoutSeconds)

inductive Field where
  | baseUrl
  | apiKey
  | projectId
  | timeoutSeconds
  deriving DecidableEq, Repr

def schema : Schema GatewaySettings where
  title := "GatewaySettings"
  Field := Field
  same := inferInstance
  fields := [.baseUrl, .apiKey, .projectId, .timeoutSeconds]
  name
    | .baseUrl => "base_url"
    | .apiKey => "api_key"
    | .projectId => "project_id"
    | .timeoutSeconds => "timeout_secs"
  Carrier
    | .baseUrl => String
    | .apiKey => String
    | .projectId => Option String
    | .timeoutSeconds => Binary64
  absent
    | .baseUrl => none
    | .apiKey => none
    | .projectId => some none
    | .timeoutSeconds => some ClientConfig.defaultTimeout
  assemble get := do
    return ⟨← get .baseUrl, ← get .apiKey, ← get .projectId, ← get .timeoutSeconds⟩

def fromText : JsonText.FieldReader GatewaySettings :=
  JsonText.recordField schema fun
    | .baseUrl => JsonText.stringField
    | .apiKey => JsonText.stringField
    | .projectId => JsonText.optionalField JsonText.stringField
    | .timeoutSeconds => JsonText.numberField "f64" Json.realField

end GatewaySettings

namespace LoggingSettings

def default : LoggingSettings := ⟨"info", false⟩

def shown (l : LoggingSettings) : String :=
  Text.shownRecord "LoggingConfig" [("level", Text.quoted l.level), ("json", toString l.json)]

inductive Field where
  | level
  | json
  deriving DecidableEq, Repr

def schema : Schema LoggingSettings where
  title := "LoggingConfig"
  Field := Field
  same := inferInstance
  fields := [.level, .json]
  name
    | .level => "level"
    | .json => "json"
  Carrier
    | .level => String
    | .json => Bool
  absent
    | .level => some default.level
    | .json => some default.json
  assemble get := do return ⟨← get .level, ← get .json⟩

def fromText : JsonText.FieldReader LoggingSettings :=
  JsonText.recordField schema fun
    | .level => JsonText.stringField
    | .json => JsonText.boolField

end LoggingSettings

namespace ProbeSettings

def shown (p : ProbeSettings) : String :=
  Text.shownRecord "ProbeConfig" [("gateway", p.gateway.shown), ("logging", p.logging.shown)]

inductive Field where
  | gateway
  | logging
  deriving DecidableEq, Repr

def schema : Schema ProbeSettings where
  title := "ProbeConfig"
  Field := Field
  same := inferInstance
  fields := [.gateway, .logging]
  name
    | .gateway => "gateway"
    | .logging => "logging"
  Carrier
    | .gateway => GatewaySettings
    | .logging => LoggingSettings
  absent
    | .gateway => none
    | .logging => some .default
  assemble get := do return ⟨← get .gateway, ← get .logging⟩

def fromText : JsonText.FieldReader ProbeSettings :=
  JsonText.recordField schema fun
    | .gateway => GatewaySettings.fromText
    | .logging => LoggingSettings.fromText

end ProbeSettings

end SessionGateway
