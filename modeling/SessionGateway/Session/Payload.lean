import SessionGateway.Endpoint
import SessionGateway.Json.Writer
import SessionGateway.Record.Text
import SessionGateway.Record.Value

/-! The bodies of session and refresh requests and the tokens they earn, each with its schema and
its JSON form. A written record has its fields in their order; as a value, in the order of keys. -/

namespace SessionGateway

/-- Members in the order given, as one object on one line. -/
def writeInOrder (members : List (String × Json)) : String :=
  (Json.object members).text

/-- What a new session is asked for with. -/
structure SessionPayload where
  userExternalId : String
  projectId : Option String
  userData : Option Members

namespace SessionPayload

def new (user : String) : SessionPayload := ⟨user, none, none⟩

/-- Members that are not given are left out. -/
def members (p : SessionPayload) : List (String × Json) :=
  ("user_external_id", .string p.userExternalId) ::
    ((p.projectId.map fun id => ("project_id", .string id)).toList ++
      (p.userData.map fun data => ("user_data", .object data)).toList)

def toJson (p : SessionPayload) : Json := .object (Members.ofPairs p.members)

def text (p : SessionPayload) : String := writeInOrder p.members

inductive Field where
  | userExternalId
  | projectId
  | userData
  deriving DecidableEq, Repr

def schema : Schema SessionPayload where
  title := "SessionCreatePayload"
  Field := Field
  same := inferInstance
  fields := [.userExternalId, .projectId, .userData]
  name
    | .userExternalId => "user_external_id"
    | .projectId => "project_id"
    | .userData => "user_data"
  Carrier
    | .userExternalId => String
    | .projectId => Option String
    | .userData => Option Members
  absent
    | .userExternalId => none
    | .projectId => some none
    | .userData => some none
  assemble get := do
    return ⟨← get .userExternalId, ← get .projectId, ← get .userData⟩

def fromText : JsonText.FieldReader SessionPayload :=
  JsonText.recordField schema fun
    | .userExternalId => JsonText.stringField
    | .projectId => JsonText.optionalField JsonText.stringField
    | .userData => JsonText.optionalField JsonText.mapField

def ofJson : Json → Except Mismatch SessionPayload :=
  Json.recordField schema fun
    | .userExternalId => Json.stringField
    | .projectId => Json.optionalField Json.stringField
    | .userData => Json.optionalField Json.mapField

end SessionPayload

/-- What new tokens are asked for with. -/
structure RefreshRequest where
  refreshToken : String
  deriving DecidableEq, Repr

namespace RefreshRequest

def members (r : RefreshRequest) : List (String × Json) :=
  [("refresh_token", .string r.refreshToken)]

def toJson (r : RefreshRequest) : Json := .object (Members.ofPairs r.members)

def text (r : RefreshRequest) : String := writeInOrder r.members

inductive Field where
  | refreshToken
  deriving DecidableEq, Repr

def schema : Schema RefreshRequest where
  title := "RefreshRequest"
  Field := Field
  same := inferInstance
  fields := [.refreshToken]
  name | .refreshToken => "refresh_token"
  Carrier | .refreshToken => String
  absent | .refreshToken => none
  assemble get := do return ⟨← get .refreshToken⟩

def fromText : JsonText.FieldReader RefreshRequest :=
  JsonText.recordField schema fun | .refreshToken => JsonText.stringField

def ofJson : Json → Except Mismatch RefreshRequest :=
  Json.recordField schema fun | .refreshToken => Json.stringField

end RefreshRequest

/-- Tokens issued for a session. -/
structure TokenBundle where
  accessToken : String
  refreshToken : String
  /-- Seconds, below `2 ^ 64`. -/
  expiresIn : Nat
  tokenType : String
  deriving DecidableEq, Repr

namespace TokenBundle

def members (b : TokenBundle) : List (String × Json) :=
  [("access_token", .string b.accessToken), ("refresh_token", .string b.refreshToken),
    ("expires_in", .integer b.expiresIn), ("token_type", .string b.tokenType)]

def toJson (b : TokenBundle) : Json := .object (Members.ofPairs b.members)

def text (b : TokenBundle) : String := writeInOrder b.members

inductive Field where
  | accessToken
  | refreshToken
  | expiresIn
  | tokenType
  deriving DecidableEq, Repr

def schema : Schema TokenBundle where
  title := "SessionTokenBundle"
  Field := Field
  same := inferInstance
  fields := [.accessToken, .refreshToken, .expiresIn, .tokenType]
  name
    | .accessToken => "access_token"
    | .refreshToken => "refresh_token"
    | .expiresIn => "expires_in"
    | .tokenType => "token_type"
  Carrier
    | .accessToken => String
    | .refreshToken => String
    | .expiresIn => Nat
    | .tokenType => String
  absent
    | .accessToken => none
    | .refreshToken => none
    | .expiresIn => none
    | .tokenType => none
  assemble get := do
    return ⟨← get .accessToken, ← get .refreshToken, ← get .expiresIn, ← get .tokenType⟩

def fromText : JsonText.FieldReader TokenBundle :=
  JsonText.recordField schema fun
    | .accessToken => JsonText.stringField
    | .refreshToken => JsonText.stringField
    | .expiresIn => JsonText.numberField "u64" Json.countField
    | .tokenType => JsonText.stringField

def ofJson : Json → Except Mismatch TokenBundle :=
  Json.recordField schema fun
    | .accessToken => Json.stringField
    | .refreshToken => Json.stringField
    | .expiresIn => Json.countField
    | .tokenType => Json.stringField

end TokenBundle

namespace Endpoint

def toJson (e : Endpoint) : Json := .string e.name

/-- The endpoint of that name. -/
def named (s : String) : Except Mismatch Endpoint :=
  match ofName? s with
  | some e => .ok e
  | none => .error (.unknownVariant s (all.map name))

/-- The name as the key of an object, whose value is null. -/
def fromKey (fuel depth : Nat) (cs : List Char) : Except JsonText.Fault (Endpoint × List Char) :=
  match JsonText.skipBlanks cs with
  | [] => .error (.next .endInValue [])
  | '"' :: cs => do
    let (key, cs) ← JsonText.readString fuel cs
    match named key with
    | .error m => .error (.here (.mismatch m) cs)
    | .ok e =>
      let cs ← JsonText.readColon cs
      let ((), cs) ← JsonText.unitField fuel depth cs
      match JsonText.skipBlanks cs with
      | [] => .error (.here .endInObject [])
      | '\x7d' :: cs => return (e, cs)
      | cs => .error (.here .noValue cs)
  | '\x7d' :: cs => .error (.next .noValue ('\x7d' :: cs))
  | cs => .error (.next .keyNotString cs)

/-- A name, alone or as a key. -/
def fromText : JsonText.FieldReader Endpoint := fun fuel depth cs =>
  match JsonText.skipBlanks cs with
  | [] => .error (.next .endInValue [])
  | '"' :: cs => do
    let (s, cs) ← JsonText.readString fuel cs
    match named s with
    | .error m => .error (.here (.mismatch m) cs)
    | .ok e => return (e, cs)
  | '\x7b' :: cs =>
    match depth with
    | 0 => .error (.next .tooDeep ('\x7b' :: cs))
    | depth + 1 => fromKey fuel depth cs
  | cs => .error (.next .noValue cs)

def ofJson : Json → Except Mismatch Endpoint
  | .string s => named s
  | .object [(key, v)] => do
    let e ← named key
    let () ← Json.unitField v
    return e
  | .object _ => .error (.wrongValue .map "map with a single key")
  | v => v.refuse "string or map"

end Endpoint

end SessionGateway
