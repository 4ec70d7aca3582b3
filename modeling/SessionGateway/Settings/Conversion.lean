import SessionGateway.Number.Reading
import SessionGateway.Number.Shortest
import SessionGateway.Record.Schema
import SessionGateway.Settings.Probe
import SessionGateway.Settings.Value
import SessionGateway.Text.Lowercase

/-! Reading records from layered settings. Scalars are converted to the type that a field wants
where that makes sense, and a fault names the key and the source of the part it is about. -/

namespace SessionGateway

inductive SettingsFault where
  /-- A part that cannot be converted, with the path to it. -/
  | wrongType (origin : Option String) (found : Found) (wanted : String) (key : Option String)
  | mismatch (m : Mismatch)
  | unreadable (detail : String)
  | unparsable (file : String) (cause : String)
  deriving DecidableEq, Repr

namespace SettingsFault

/-- Plain digits, with a point at the end if there is none. -/
def pointedReal (x : Binary64) : String :=
  let digits := NumberLayout.plain.write x
  if digits.toList.contains '.' then digits else digits ++ ".0"

def wording : FoundWording := ⟨"unit value", pointedReal⟩

/-- Where a whole source is of the wrong type, the width of an integer is named. -/
def foundText : Found → String
  | .integer i => "64-bit integer `" ++ toString i ++ "`"
  | .real x => "floating point `" ++ NumberLayout.plain.write x ++ "`"
  | found => found.text wording

def message : SettingsFault → String
  | wrongType origin found wanted key =>
    "invalid type: " ++ foundText found ++ ", expected " ++ wanted ++
      (key.elim "" fun k => " for key `" ++ k ++ "`") ++ (origin.elim "" fun o => " in " ++ o)
  | mismatch m => m.text wording
  | unreadable detail => detail
  | unparsable file cause => cause ++ " in " ++ file

/-- The path to a part of the value of a key, or of an item in brackets. -/
def joinKey (outer : String) : Option String → String
  | none => outer
  | some inner => if inner.toList.head? = some '[' then outer ++ inner else outer ++ "." ++ inner

/-- The same fault, seen from one level further out. -/
def within (outer : String) : SettingsFault → SettingsFault
  | wrongType origin found wanted key => .wrongType origin found wanted (some (joinKey outer key))
  | fault => fault

end SettingsFault

namespace Setting

abbrev FieldReader (α : Type) := Setting → Except SettingsFault α

def found : Setting → Found
  | .scalar _ .absent => .absent
  | .scalar _ (.boolean b) => .boolean b
  | .scalar _ (.integer i) => .integer i
  | .scalar _ (.real x) => .real x
  | .scalar _ (.text s) => .string s
  | .list .. => .sequence
  | .table .. => .map

def origin : Setting → Option String
  | .scalar origin _ => origin
  | .list origin _ => origin
  | .table origin _ => origin

def refuse {α : Type} (wanted : String) (s : Setting) : Except SettingsFault α :=
  .error (.wrongType s.origin s.found wanted none)

/-- Every scalar that holds something has a text. -/
def stringField : FieldReader String
  | .scalar _ (.text s) => .ok s
  | .scalar _ (.boolean b) => .ok (toString b)
  | .scalar _ (.integer i) => .ok (toString i)
  | .scalar _ (.real x) => .ok (NumberLayout.plain.write x)
  | s => s.refuse "a string"

def yesWords : List String := ["true", "on", "yes"]

def noWords : List String := ["false", "off", "no"]

def boolField : FieldReader Bool
  | .scalar _ (.boolean b) => .ok b
  | .scalar _ (.integer i) => .ok (i != 0)
  | .scalar _ (.real x) => .ok !x.isZero
  | .scalar origin (.text s) =>
    let word := Text.lowercase s
    if ("1" :: yesWords).contains word then .ok true
    else if ("0" :: noWords).contains word then .ok false
    else refuse "a boolean" (.scalar origin (.text word))
  | s => s.refuse "a boolean"

def realField : FieldReader Binary64
  | .scalar _ (.real x) => .ok x
  | .scalar _ (.integer i) => .ok (.ofInt i)
  | .scalar _ (.boolean b) => .ok (.ofInt (if b then 1 else 0))
  | .scalar origin (.text s) =>
    let word := Text.lowercase s
    if yesWords.contains word then .ok (.ofInt 1)
    else if noWords.contains word then .ok (.ofInt 0)
    else match readBinary64? s with
      | some x => .ok x
      | none => refuse "a floating point" (.scalar origin (.text s))
  | s => s.refuse "a floating point"

def optionalField {α : Type} (read : FieldReader α) : FieldReader (Option α)
  | .scalar _ .absent => .ok none
  | s => (read s).map some

section

variable {ρ : Type} (s : Schema ρ) (fieldReader : (f : s.Field) → FieldReader (s.Carrier f))

def fillSlots : s.Slots → List (String × Setting) → Except SettingsFault s.Slots
  | slots, [] => .ok slots
  | slots, (key, v) :: rest =>
    match s.field? key with
    | none => fillSlots slots rest
    | some f => do
      let a ← (fieldReader f v).mapError (.within key)
      fillSlots (s.put slots f a) rest

/-- Items beyond the last field are passed over. -/
def fillSequence : List s.Field → Nat → s.Slots → List Setting → Except SettingsFault s.Slots
  | f :: fields, i, slots, v :: items => do
    let a ← (fieldReader f v).mapError (.within ("[" ++ toString i ++ "]"))
    fillSequence fields (i + 1) (s.put slots f a) items
  | _, _, slots, _ => .ok slots

def recordField : FieldReader ρ
  | .table _ entries => do
    let slots ← fillSlots s fieldReader s.noSlots entries
    s.finish (fun f => .mismatch (s.missingField f)) slots
  | .list _ items => do
    let slots ← fillSequence s fieldReader s.fields 0 s.noSlots items
    s.finish (fun f => .mismatch (s.tooShort f)) slots
  | v => .error (.mismatch (.wrongType v.found s.wanted))

end

end Setting

def GatewaySettings.ofSetting : Setting.FieldReader GatewaySettings :=
  Setting.recordField GatewaySettings.schema fun
    | .baseUrl => Setting.stringField
    | .apiKey => Setting.stringField
    | .projectId => Setting.optionalField Setting.stringField
    | .timeoutSeconds => Setting.realField

def LoggingSettings.ofSetting : Setting.FieldReader LoggingSettings :=
  Setting.recordField LoggingSettings.schema fun
    | .level => Setting.stringField
    | .json => Setting.boolField

def ProbeSettings.ofSetting : Setting.FieldReader ProbeSettings :=
  Setting.recordField ProbeSettings.schema fun
    | .gateway => GatewaySettings.ofSetting
    | .logging => LoggingSettings.ofSetting

end SessionGateway
