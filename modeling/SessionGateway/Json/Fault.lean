import SessionGateway.Record.Mismatch

/-! Why a text is not the wanted JSON, and where. A fault counts the bytes of the text that lie
after its place, so that readers need not know how much stood before. -/

namespace SessionGateway.JsonText

inductive Cause where
  | endInList
  | endInObject
  | endInString
  | endInValue
  | noColon
  | noCommaInList
  | noCommaInObject
  | badWord
  | noValue
  | badEscape
  | badNumber
  | numberOutOfRange
  | loneSurrogate
  | brokenSurrogatePair
  | controlCharacter
  | keyNotString
  | trailingComma
  | trailingCharacters
  | tooDeep
  | mismatch (m : Mismatch)
  deriving DecidableEq, Repr

/-- The broad classes of causes. -/
inductive Category where
  | syntactic
  | data
  | ended
  deriving DecidableEq, Repr

def Cause.category : Cause → Category
  | endInList | endInObject | endInString | endInValue => .ended
  | mismatch _ => .data
  | _ => .syntactic

/-- JSON's own words for what was found. -/
def wording : FoundWording := ⟨"null", NumberLayout.json.write⟩

def Cause.text : Cause → String
  | endInList => "EOF while parsing a list"
  | endInObject => "EOF while parsing an object"
  | endInString => "EOF while parsing a string"
  | endInValue => "EOF while parsing a value"
  | noColon => "expected `:`"
  | noCommaInList => "expected `,` or `]`"
  | noCommaInObject => "expected `,` or `\x7d`"
  | badWord => "expected ident"
  | noValue => "expected value"
  | badEscape => "invalid escape"
  | badNumber => "invalid number"
  | numberOutOfRange => "number out of range"
  | loneSurrogate => "lone leading surrogate in hex escape"
  | brokenSurrogatePair => "unexpected end of hex escape"
  | controlCharacter =>
    "control character (\\u0000-\\u001F) found while parsing a string"
  | keyNotString => "key must be a string"
  | trailingComma => "trailing comma"
  | trailingCharacters => "trailing characters"
  | tooDeep => "recursion limit exceeded"
  | mismatch m => m.text wording

structure Fault where
  cause : Cause
  /-- Bytes of the text after the place of the fault. -/
  unread : Nat
  deriving DecidableEq, Repr

def byteCount (cs : List Char) : Nat := cs.foldl (fun n c => n + c.utf8Size) 0

/-- A fault placed `n` bytes into the rest of the text, or at its end. -/
def Fault.past (n : Nat) (cause : Cause) (rest : List Char) : Fault := ⟨cause, byteCount rest - n⟩

def Fault.here (cause : Cause) (rest : List Char) : Fault := .past 0 cause rest

/-- A fault placed at the next byte, counted in. -/
def Fault.next (cause : Cause) (rest : List Char) : Fault := .past 1 cause rest

/-- A line, and a column in bytes, both as the number of the last byte read. -/
structure Place where
  line : Nat
  column : Nat
  deriving DecidableEq, Repr

/-- The place reached after `n` bytes. -/
def Place.after (text : String) (n : Nat) : Place :=
  let read := text.toUTF8.toList.take n
  ⟨1 + read.count 10, (read.reverse.takeWhile (· != 10)).length⟩

/-- What a caller is told: the cause, with its place when a text was read. -/
structure ReadError where
  cause : Cause
  place : Option Place
  deriving DecidableEq, Repr

def Fault.locate (text : String) (fault : Fault) : ReadError :=
  ⟨fault.cause, some (.after text (text.utf8ByteSize - fault.unread))⟩

def ReadError.ofMismatch (m : Mismatch) : ReadError := ⟨.mismatch m, none⟩

def ReadError.message (e : ReadError) : String :=
  e.cause.text ++ match e.place with
    | none => ""
    | some p => " at line " ++ toString p.line ++ " column " ++ toString p.column

end SessionGateway.JsonText
