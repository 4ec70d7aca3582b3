import SessionGateway.Text.Ascii
import SessionGateway.Text.Utf8

/-! The head of a reply: a status line and header lines, up to an empty line. -/

namespace SessionGateway.Http

/-- How far reading has come: to an end, to where more bytes are needed, or to an error. -/
inductive Progress (α : Type) where
  | done (a : α) (rest : List UInt8)
  | more
  | malformed
  deriving DecidableEq, Repr

def byte (c : Char) : UInt8 := UInt8.ofNat c.toNat

def space : UInt8 := 32
def tab : UInt8 := 9
def carriageReturn : UInt8 := 13
def lineFeed : UInt8 := 10

structure Head where
  /-- Of the older of two protocol versions. -/
  isOld : Bool
  status : Nat
  /-- Names in lower case with the bytes of their values. -/
  headers : List (String × List UInt8)
  deriving DecidableEq, Repr

namespace Head

def values (h : Head) (name : String) : List (List UInt8) :=
  (h.headers.filter (·.1 == name)).map (·.2)

def value? (h : Head) (name : String) : Option (List UInt8) := (h.values name).head?

end Head

/-- A header value as a text, if it holds nothing but printable ASCII and tabs. -/
def asText? (value : List UInt8) : Option String :=
  if value.all fun b => b == tab || (32 ≤ b && b < 127) then
    some (String.ofList (value.map fun b => Char.ofNat b.toNat))
  else none

def isDigit (b : UInt8) : Bool := 48 ≤ b && b ≤ 57

def isNameByte (b : UInt8) : Bool :=
  (Char.ofNat b.toNat).isAlphanum || ("!#$%&'*+-.^_`|~".toList.map byte).contains b

def isValueByte (b : UInt8) : Bool := b == tab || (32 ≤ b && b != 127)

def isBlank (b : UInt8) : Bool := b == space || b == tab

/-- The rest after the given bytes. -/
def expect : List UInt8 → List UInt8 → Progress Unit
  | [], rest => .done () rest
  | _ :: _, [] => .more
  | w :: wanted, b :: rest => if b == w then expect wanted rest else .malformed

/-- The rest after a line break, with or without a carriage return. -/
def lineEnd : List UInt8 → Progress Unit
  | [] => .more
  | b :: rest =>
    if b == lineFeed then .done () rest
    else if b == carriageReturn then expect [lineFeed] rest
    else .malformed

def skipEmptyLines : Nat → List UInt8 → Progress Unit
  | 0, _ => .more
  | _ + 1, [] => .more
  | fuel + 1, b :: rest =>
    if b == lineFeed || b == carriageReturn then
      match lineEnd (b :: rest) with
      | .done () rest => skipEmptyLines fuel rest
      | other => other
    else .done () (b :: rest)

/-- A version, as whether it is the older one. -/
def readVersion (bytes : List UInt8) : Progress Bool :=
  match expect ("HTTP/1.".toList.map byte) bytes with
  | .done () [] => .more
  | .done () (b :: rest) =>
    if b == byte '1' then .done false rest
    else if b == byte '0' then .done true rest
    else .malformed
  | .more => .more
  | .malformed => .malformed

/-- So many digits. -/
def readDigits : Nat → Nat → List UInt8 → Progress Nat
  | 0, n, rest => .done n rest
  | _ + 1, _, [] => .more
  | count + 1, n, b :: rest =>
    if isDigit b then readDigits count (10 * n + (b.toNat - 48)) rest else .malformed

/-- The rest after what may follow a status: a blank and any words. -/
def skipReason (bytes : List UInt8) : Progress Unit :=
  match bytes with
  | [] => .more
  | b :: rest => if b == space then lineEnd (rest.dropWhile isValueByte) else lineEnd (b :: rest)

/-- Version and status. -/
def readStatusLine (bytes : List UInt8) : Progress (Bool × Nat) :=
  match readVersion bytes with
  | .more => .more
  | .malformed => .malformed
  | .done isOld rest =>
    match expect [space] rest with
    | .more => .more
    | .malformed => .malformed
    | .done () rest =>
      match readDigits 3 0 rest with
      | .more => .more
      | .malformed => .malformed
      | .done status rest =>
        match skipReason rest with
        | .more => .more
        | .malformed => .malformed
        | .done () rest => .done (isOld, status) rest

def lowerName (name : List UInt8) : String :=
  Text.foldAscii (String.ofList (name.map fun b => Char.ofNat b.toNat))

/-- A header line. -/
def readHeader (bytes : List UInt8) : Progress (String × List UInt8) :=
  let name := bytes.takeWhile isNameByte
  if name.isEmpty then .malformed
  else match bytes.dropWhile isNameByte with
    | [] => .more
    | b :: rest =>
      if b != byte ':' then .malformed
      else
        let rest := rest.dropWhile isBlank
        let value := ((rest.takeWhile isValueByte).reverse.dropWhile isBlank).reverse
        match lineEnd (rest.dropWhile isValueByte) with
        | .done () rest => .done (lowerName name, value) rest
        | .more => .more
        | .malformed => .malformed

/-- How many header lines a reply may have. -/
def headerLimit : Nat := 100

/-- Header lines up to the empty one, at most `fuel - 1`. -/
def readHeaders : Nat → List UInt8 → Progress (List (String × List UInt8))
  | _, [] => .more
  | 0, b :: rest =>
    if b == lineFeed || b == carriageReturn then
      match lineEnd (b :: rest) with
      | .done () rest => .done [] rest
      | .more => .more
      | .malformed => .malformed
    else .malformed
  | fuel + 1, b :: rest =>
    if b == lineFeed || b == carriageReturn then
      match lineEnd (b :: rest) with
      | .done () rest => .done [] rest
      | .more => .more
      | .malformed => .malformed
    else match readHeader (b :: rest) with
      | .more => .more
      | .malformed => .malformed
      | .done header rest =>
        match readHeaders fuel rest with
        | .done headers rest => .done (header :: headers) rest
        | .more => .more
        | .malformed => .malformed

/-- How long a header name may be, which shows only when the head is there. -/
def nameLimit : Nat := 65535

/-- A head of any size. -/
def readWholeHead (bytes : List UInt8) : Progress Head :=
  match skipEmptyLines (bytes.length + 1) bytes with
  | .more => .more
  | .malformed => .malformed
  | .done () rest =>
    match readStatusLine rest with
    | .more => .more
    | .malformed => .malformed
    | .done (isOld, status) rest =>
      match readHeaders headerLimit rest with
      | .more => .more
      | .malformed => .malformed
      | .done headers rest =>
        if status < 100 || headers.any (nameLimit < ·.1.length) then .malformed
        else .done ⟨isOld, status, headers⟩ rest

/-- How many bytes a head may have, with the empty lines before it. -/
def headSizeLimit : Nat := 8192 + 4096 * headerLimit

/-- A head within the limit, beyond which no more bytes are waited for. A longer head is refused
here, although its last bytes might have come together with those at the limit, and then it would be
read: how many bytes come at once is not known. -/
def readOneHead (bytes : List UInt8) : Progress Head :=
  match readWholeHead bytes with
  | .done head rest =>
    if headSizeLimit + rest.length < bytes.length then .malformed else .done head rest
  | .more => if headSizeLimit ≤ bytes.length then .malformed else .more
  | .malformed => .malformed

/-- A head that only announces another one. -/
def Head.isInterim (h : Head) : Bool := 100 ≤ h.status && h.status < 200 && h.status != 101

/-- The first head that is not interim. -/
def readHead : Nat → List UInt8 → Progress Head
  | 0, _ => .more
  | fuel + 1, bytes =>
    match readOneHead bytes with
    | .done head rest => if head.isInterim then readHead fuel rest else .done head rest
    | .more => .more
    | .malformed => .malformed

end SessionGateway.Http
