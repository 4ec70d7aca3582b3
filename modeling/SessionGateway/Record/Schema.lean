import SessionGateway.Record.Mismatch

/-! The shape of a record: its fields in order, their names, their types, and what stands for a
field that is not given. A source fills slots, one per field; the record is assembled from them. -/

namespace SessionGateway

structure Schema (ρ : Type) where
  title : String
  Field : Type
  same : DecidableEq Field
  fields : List Field
  name : Field → String
  Carrier : Field → Type
  /-- The value of a field that is not given; none when the field has to be given. -/
  absent : (f : Field) → Option (Carrier f)
  /-- Takes the fields in their order, so the first one that fails decides. -/
  assemble : {ε : Type} → ((f : Field) → Except ε (Carrier f)) → Except ε ρ

namespace Schema

variable {ρ : Type} (s : Schema ρ)

def field? (key : String) : Option s.Field := s.fields.find? (s.name · == key)

/-- What is known of each field. -/
def Slots : Type := (f : s.Field) → Option (s.Carrier f)

def noSlots : s.Slots := fun _ => none

def put (slots : s.Slots) (f : s.Field) (v : s.Carrier f) : s.Slots := fun g =>
  match s.same g f with
  | .isTrue h => some (h ▸ v)
  | .isFalse _ => slots g

/-- The record that the slots make, each empty one taking its default or else failing. -/
def finish {ε : Type} (missing : s.Field → ε) (slots : s.Slots) : Except ε ρ :=
  s.assemble fun f =>
    match slots f <|> s.absent f with
    | some v => .ok v
    | none => .error (missing f)

/-- How the record is named where it is wanted. -/
def wanted : String := "struct " ++ s.title

/-- The complaint about a map without the field. -/
def missingField (f : s.Field) : Mismatch := .missingField (s.name f)

def countWanted : String :=
  s.wanted ++ " with " ++ toString s.fields.length ++
    if s.fields.length = 1 then " element" else " elements"

/-- The complaint about a sequence that ends before the field. -/
def tooShort (f : s.Field) : Mismatch :=
  letI := s.same
  .wrongLength (s.fields.idxOf f) s.countWanted

end Schema

end SessionGateway
