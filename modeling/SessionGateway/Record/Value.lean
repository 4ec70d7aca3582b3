import SessionGateway.Json.Value
import SessionGateway.Record.Schema

/-! Reading records from JSON values. The members of an object come in the order of their keys,
and each key once, so no field can be repeated. -/

namespace SessionGateway.Json

def found : Json → Found
  | null => .absent
  | bool b => .boolean b
  | integer i => .integer i
  | real x => .real x
  | string s => .string s
  | array _ => .sequence
  | object _ => .map

abbrev FieldReader (α : Type) := Json → Except Mismatch α

def refuse {α : Type} (wanted : String) (v : Json) : Except Mismatch α :=
  .error (.wrongType v.found wanted)

def stringField : FieldReader String
  | string s => .ok s
  | v => v.refuse "a string"

def optionalField {α : Type} (read : FieldReader α) : FieldReader (Option α)
  | null => .ok none
  | v => (read v).map some

def boolField : FieldReader Bool
  | bool b => .ok b
  | v => v.refuse "a boolean"

/-- A natural number of 64 bits. -/
def countField : FieldReader Nat
  | integer i => if 0 ≤ i then .ok i.toNat else .error (.wrongValue (.integer i) "u64")
  | v => v.refuse "u64"

def realField : FieldReader Binary64
  | integer i => .ok (.ofInt i)
  | real x => .ok x
  | v => v.refuse "f64"

def mapField : FieldReader Members
  | object members => .ok members
  | v => v.refuse "a map"

def unitField : FieldReader Unit
  | null => .ok ()
  | v => v.refuse "unit"

section

variable {ρ : Type} (s : Schema ρ) (fieldReader : (f : s.Field) → FieldReader (s.Carrier f))

/-- The slots that members fill. -/
def fillSlots : s.Slots → Members → Except Mismatch s.Slots
  | slots, [] => .ok slots
  | slots, (key, v) :: rest =>
    match s.field? key with
    | none => fillSlots slots rest
    | some f => do
      let a ← fieldReader f v
      fillSlots (s.put slots f a) rest

/-- The slots that items fill, and the items beyond the last field. -/
def fillSequence : List s.Field → s.Slots → List Json → Except Mismatch (s.Slots × List Json)
  | f :: fields, slots, v :: items => do
    let a ← fieldReader f v
    fillSequence fields (s.put slots f a) items
  | _, slots, items => .ok (slots, items)

def recordField : FieldReader ρ
  | object members => do
    let slots ← fillSlots s fieldReader s.noSlots members
    s.finish s.missingField slots
  | array items => do
    let (slots, left) ← fillSequence s fieldReader s.fields s.noSlots items
    let r ← s.finish s.tooShort slots
    if left.isEmpty then return r
    else .error (.wrongLength items.length "fewer elements in array")
  | v => v.refuse s.wanted

end

end SessionGateway.Json
