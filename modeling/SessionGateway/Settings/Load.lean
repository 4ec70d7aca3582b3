import SessionGateway.Number.Reading
import SessionGateway.Settings.File
import SessionGateway.Settings.Path
import SessionGateway.Settings.Value
import SessionGateway.Text.Lowercase

/-! The probe's settings from their three layers: defaults, the configuration file over them, and
the environment over both. After a common start, the name of an environment variable is a path whose
parts are divided by two underscores, and its value is typed by how it looks. -/

namespace SessionGateway.Environment

/-- Names and values, in the order in which they are laid over each other; a name occurs once. The
order comes from a hash, so that only what holds of every order can be relied on. It matters where
the key of one variable goes on from the key of another. -/
abbrev Variables := List (String × String)

def namesStart : String := "caas__"

def originName : String := "the environment"

/-- Two underscores become a point, from the left. -/
def pointed : List Char → List Char
  | '_' :: '_' :: cs => '.' :: pointed cs
  | c :: cs => c :: pointed cs
  | [] => []

/-- The key of a variable that is a setting. -/
def key? (name : String) : Option String :=
  (Text.afterStart? namesStart.toList (Text.lowercase name).toList).map fun rest =>
    String.ofList (pointed rest)

/-- A truth value, a whole number, a real number, or else a text. -/
def typed (value : String) : Scalar :=
  match Text.lowercase value with
  | "true" => .boolean true
  | "false" => .boolean false
  | _ =>
    match readInt64? value with
    | some i => .integer i
    | none =>
      match readBinary64? value with
      | some x => .real x
      | none => .text value

/-- The variables that are settings, each with its key. -/
def layer (environment : Variables) : List (String × Setting) :=
  environment.filterMap fun v =>
    (key? v.1).map fun key => (key, .scalar (some originName) (typed v.2))

end SessionGateway.Environment

namespace SessionGateway.ProbeSettings

def defaults : List (String × Setting) :=
  [("gateway.timeout_secs", .scalar none (.real ClientConfig.defaultTimeout)),
    ("logging.level", .scalar none (.text LoggingSettings.default.level)),
    ("logging.json", .scalar none (.boolean LoggingSettings.default.json))]

/-- All layers laid over each other. -/
def layered (file : List (String × Setting)) (environment : Environment.Variables) : Setting :=
  ((Setting.emptyTable.overlay defaults).overlay file).overlay (Environment.layer environment)

def load (directory : Directory) (environment : Environment.Variables) (file : Option String) :
    Except SettingsFault ProbeSettings := do
  let entries ← ConfigFile.layer directory file
  ofSetting (layered entries environment)

end SessionGateway.ProbeSettings
