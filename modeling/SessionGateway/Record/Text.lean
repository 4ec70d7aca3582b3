import SessionGateway.Json.Reader
import SessionGateway.Record.Schema

/-! Reading records straight from a JSON text. A record may be an object, whose unknown members
are passed over, or an array of its fields in order. -/

namespace SessionGateway.JsonText

/-- Why the inside of a record was not read: the text is at fault, or what it holds is not the
record. A mismatch is placed only once the closing bracket has been looked for. -/
inductive Stop where
  | fault (f : Fault)
  | mismatch (m : Mismatch) (rest : List Char)

def orStop {α : Type} : Except Fault α → Except Stop α
  | .ok a => .ok a
  | .error f => .error (.fault f)

/-- The rest after a scalar that is not of the wanted type, with what it is; a container is not
entered. -/
def readFound (fuel : Nat) (cs : List Char) : Except Fault (Found × List Char) :=
  match skipBlanks cs with
  | [] => .error (.next .noValue [])
  | c :: cs =>
    if c = '[' then .ok (.sequence, c :: cs)
    else if c = '\x7b' then .ok (.map, c :: cs)
    else do
      match ← readValue fuel 0 (c :: cs) with
      | (.null, cs) => return (.absent, cs)
      | (.bool b, cs) => return (.boolean b, cs)
      | (.integer i, cs) => return (.integer i, cs)
      | (.real x, cs) => return (.real x, cs)
      | (.string s, cs) => return (.string s, cs)
      | (.array _, cs) => return (.sequence, cs)
      | (.object _, cs) => return (.map, cs)

/-- Refuses the next value for its type. -/
def refuse {α : Type} (fuel : Nat) (wanted : String) (cs : List Char) : Except Fault α :=
  match skipBlanks cs with
  | [] => .error (.next .endInValue [])
  | cs => do
    let (found, cs) ← readFound fuel cs
    .error (.here (.mismatch (.wrongType found wanted)) cs)

def nextChar? (cs : List Char) : Option Char := (skipBlanks cs).head?

/-- Whether the next value is a number. -/
def startsNumber (cs : List Char) : Bool :=
  (nextChar? cs).any fun c => c = '-' || c.isDigit

/-- Readers of the types that fields have, each with a bound on the length of the text and on the
depth of containers. -/
abbrev FieldReader (α : Type) := Nat → Nat → Reader α

def stringField : FieldReader String := fun fuel _ cs =>
  match skipBlanks cs with
  | '"' :: cs => readString fuel cs
  | cs => refuse fuel "a string" cs

def optionalField {α : Type} (read : FieldReader α) : FieldReader (Option α) :=
  fun fuel depth cs =>
    match skipBlanks cs with
    | 'n' :: cs => do return (none, ← readWord "ull".toList cs)
    | cs => do
      let (v, cs) ← read fuel depth cs
      return (some v, cs)

def boolField : FieldReader Bool := fun fuel _ cs =>
  match skipBlanks cs with
  | 't' :: cs => do return (true, ← readWord "rue".toList cs)
  | 'f' :: cs => do return (false, ← readWord "alse".toList cs)
  | cs => refuse fuel "a boolean" cs

/-- A number that has to be of a certain kind. -/
def numberField {α : Type} (wanted : String) (take : Json → Except Mismatch α) : FieldReader α :=
  fun fuel _ cs =>
    if startsNumber cs then do
      let (n, cs) ← readValue fuel 0 cs
      match take n with
      | .ok v => return (v, cs)
      | .error m => .error (.here (.mismatch m) cs)
    else refuse fuel wanted cs

def mapField : FieldReader Members := fun fuel depth cs =>
  match skipBlanks cs with
  | '\x7b' :: cs =>
    match depth with
    | 0 => .error (.next .tooDeep ('\x7b' :: cs))
    | depth + 1 => do
      let (pairs, cs) ← readMembers (readValue fuel depth) fuel fuel true [] cs
      return (Members.ofPairs pairs, cs)
  | cs => refuse fuel "a map" cs

/-- Nothing but null. -/
def unitField : FieldReader Unit := fun fuel _ cs =>
  match skipBlanks cs with
  | 'n' :: cs => do return ((), ← readWord "ull".toList cs)
  | cs => refuse fuel "unit" cs

section

variable {ρ : Type} (s : Schema ρ) (fieldReader : (f : s.Field) → FieldReader (s.Carrier f))
variable (length depth : Nat)

/-- The slots that the members of an object fill, up to the closing brace. -/
def readSlots : Nat → Bool → s.Slots → List Char → Except Stop (s.Slots × List Char)
  | 0, _, _, cs => .error (.fault (.here .endInObject cs))
  | fuel + 1, first, slots, cs => do
    let (more, cs) ← orStop (nextKey first cs)
    if more then
      let (key, cs) ← orStop (readString length cs)
      match s.field? key with
      | none =>
        let cs ← orStop (readColon cs)
        let cs ← orStop (skipValue length length cs)
        readSlots fuel false slots cs
      | some f =>
        if (slots f).isSome then .error (.mismatch (.repeatedField key) cs)
        else
          let cs ← orStop (readColon cs)
          let (v, cs) ← orStop (fieldReader f length depth cs)
          readSlots fuel false (s.put slots f v) cs
    else return (slots, cs)

/-- The slots that the items of an array fill, up to the closing bracket or the last field. -/
def readSequence : List s.Field → Bool → s.Slots → List Char → Except Stop (s.Slots × List Char)
  | [], _, slots, cs => .ok (slots, cs)
  | f :: fields, first, slots, cs => do
    let (more, cs) ← orStop (nextItem first cs)
    if more then
      let (v, cs) ← orStop (fieldReader f length depth cs)
      readSequence fields false (s.put slots f v) cs
    else return (slots, cs)

/-- The rest after a closing bracket, which alone may follow. -/
def closeList (cs : List Char) : Except Fault (List Char) :=
  match skipBlanks cs with
  | [] => .error (.next .endInList [])
  | ']' :: cs => .ok cs
  | ',' :: cs =>
    match skipBlanks cs with
    | ']' :: cs => .error (.next .trailingComma (']' :: cs))
    | cs => .error (.next .trailingCharacters cs)
  | cs => .error (.next .trailingCharacters cs)

/-- How far looking for the closing bracket gets. -/
def afterClosingList (cs : List Char) : List Char :=
  match skipBlanks cs with
  | ']' :: cs => cs
  | ',' :: cs => skipBlanks cs
  | cs => cs

/-- How far looking for the closing brace gets. -/
def afterClosingObject (cs : List Char) : List Char :=
  match skipBlanks cs with
  | '\x7d' :: cs => cs
  | cs => cs

/-- Places a mismatch where reading stands after it. -/
def settle {α : Type} (closing : List Char → List Char) : Except Stop α → Except Fault α
  | .ok a => .ok a
  | .error (.fault f) => .error f
  | .error (.mismatch m rest) => .error (.here (.mismatch m) (closing rest))

def readObject (cs : List Char) : Except Fault (ρ × List Char) :=
  settle afterClosingObject do
    let (slots, cs) ← readSlots s fieldReader length depth length true s.noSlots cs
    let r ← s.finish (fun f => .mismatch (s.missingField f) cs) slots
    return (r, cs.drop 1)

def readArray (cs : List Char) : Except Fault (ρ × List Char) := do
  let (r, cs) ← settle afterClosingList do
    let (slots, cs) ← readSequence s fieldReader length depth s.fields true s.noSlots cs
    let r ← s.finish (fun f => .mismatch (s.tooShort f) cs) slots
    return (r, cs)
  let cs ← closeList cs
  return (r, cs)

end

/-- A record of the schema. -/
def recordField {ρ : Type} (s : Schema ρ)
    (fieldReader : (f : s.Field) → FieldReader (s.Carrier f)) : FieldReader ρ :=
  fun fuel depth cs =>
    match skipBlanks cs with
    | '\x7b' :: cs =>
      match depth with
      | 0 => .error (.next .tooDeep ('\x7b' :: cs))
      | depth + 1 => readObject s fieldReader fuel depth cs
    | '[' :: cs =>
      match depth with
      | 0 => .error (.next .tooDeep ('[' :: cs))
      | depth + 1 => readArray s fieldReader fuel depth cs
    | cs => refuse fuel s.wanted cs

/-- Reads a whole text as one value of a field type. -/
def readField? {α : Type} (read : FieldReader α) (text : String) : Except ReadError α :=
  readWhole? (fun fuel => read fuel depthLimit) text

end SessionGateway.JsonText
