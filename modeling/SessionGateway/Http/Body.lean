import SessionGateway.Http.Head
import SessionGateway.Number.Binary64

/-! The body of a reply: how its end is known, and its bytes. A body is whole or it is nothing. -/

namespace SessionGateway.Http

inductive Framing where
  | empty
  | sized (length : Nat)
  | chunked
  | untilClose
  deriving DecidableEq, Repr

/-- A length in digits, below `2 ^ 64`. -/
def lengthOf? (cs : List Char) : Option Nat :=
  if cs.isEmpty || !cs.all Char.isDigit then none
  else if Text.decimalValue cs < power 2 64 then some (Text.decimalValue cs) else none

/-- The lengths that header values announce, in lists or one by one. -/
def announcedLengths? (values : List (List UInt8)) : Option (List Nat) := do
  let texts ← values.mapM asText?
  let parts := texts.flatMap fun t => Text.splitAtChar (· == ',') t.toList
  (parts.map (Text.trimBoth Char.isWhitespace)).mapM lengthOf?

/-- The one length that all announcements agree on; the two largest numbers are none. -/
def agreedLength? (values : List (List UInt8)) : Option Nat := do
  match ← announcedLengths? values with
  | [] => none
  | n :: rest => if rest.all (· == n) && n < power 2 64 - 2 then some n else none

/-- Whether the last encoding of the last header is the one in chunks. -/
def endsChunked (values : List (List UInt8)) : Bool :=
  match (values.getLast?.bind asText?).map fun t => Text.splitAtChar (· == ',') t.toList with
  | none => false
  | some parts =>
    Text.sameName (String.ofList (Text.trimBoth Char.isWhitespace (parts.getLast?.getD [])))
      "chunked"

/-- How the end of the body is known; none where the head contradicts itself. -/
def Head.framing? (h : Head) : Option Framing :=
  if h.status = 101 ∨ h.status = 204 ∨ h.status = 304 then some .empty
  else if h.values "transfer-encoding" ≠ [] then
    if h.isOld then none
    else if endsChunked (h.values "transfer-encoding") then some .chunked
    else some .untilClose
  else if h.values "content-length" ≠ [] then
    (agreedLength? (h.values "content-length")).map .sized
  else some .untilClose

def hexByte? (b : UInt8) : Option Nat := Text.hexValue? (Char.ofNat b.toNat)

/-- The size of a chunk in hexadecimal digits. -/
def chunkSize? (bytes : List UInt8) : Option (Nat × List UInt8) :=
  let digits := bytes.takeWhile fun b => (hexByte? b).isSome
  let size := digits.foldl (fun n b => 16 * n + (hexByte? b).getD 0) 0
  if digits.isEmpty || power 2 64 ≤ size then none
  else some (size, bytes.dropWhile fun b => (hexByte? b).isSome)

def lineBreak : List UInt8 := [carriageReturn, lineFeed]

/-- The rest after given bytes. -/
def after? (wanted bytes : List UInt8) : Option (List UInt8) :=
  match expect wanted bytes with
  | .done () rest => some rest
  | _ => none

/-- The size of the extension that the line of a chunk's size may carry, and the rest after it. -/
def afterSizeLine? (bytes : List UInt8) : Option (Nat × List UInt8) :=
  let rest := bytes.dropWhile isBlank
  let isText (b : UInt8) := b != carriageReturn && b != lineFeed
  match rest with
  | b :: extension =>
    if b == byte ';' then
      (after? lineBreak (extension.dropWhile isText)).map fun rest =>
        ((extension.takeWhile isText).length, rest)
    else (after? lineBreak rest).map fun rest => (0, rest)
  | [] => none

/-- The lines after the last chunk, up to the empty one. -/
def trailerLines? : Nat → List UInt8 → Option (List (List UInt8))
  | 0, _ => none
  | fuel + 1, bytes =>
    match bytes with
    | [] => none
    | b :: rest =>
      if b == carriageReturn then (after? [lineFeed] rest).map fun _ => []
      else
        let line := bytes.takeWhile (· != carriageReturn)
        do
          let rest ← after? lineBreak (bytes.dropWhile (· != carriageReturn))
          return (line ++ lineBreak) :: (← trailerLines? fuel rest)

/-- How many bytes the trailing lines of a body must stay below, with the empty line. -/
def trailerSizeLimit : Nat := 16384

/-- Whether trailing lines hold a header each at the most, and are not too many or too long. -/
def trailersHold (lines : List (List UInt8)) : Bool :=
  let bytes := lines.flatten ++ lineBreak
  match readHeaders lines.length bytes with
  | .done _ _ => lines.length ≤ headerLimit && bytes.length < trailerSizeLimit
  | _ => false

/-- How many bytes the extensions of all chunks may have together. -/
def extensionLimit : Nat := 16383

/-- The chunks up to the empty one and the lines after it; `extended` bytes of extensions came
before. -/
def readChunks : Nat → Nat → List UInt8 → Option (List UInt8)
  | 0, _, _ => none
  | fuel + 1, extended, bytes => do
    let (size, rest) ← chunkSize? bytes
    let (extension, rest) ← afterSizeLine? rest
    let extended := extended + extension
    if extensionLimit < extended then none
    else if size = 0 then
      let trailers ← trailerLines? (rest.length + 1) rest
      if trailersHold trailers then return [] else none
    else if rest.length < size then none
    else
      let rest' ← after? lineBreak (rest.drop size)
      return rest.take size ++ (← readChunks fuel extended rest')

/-- The bytes of a body; none when they do not come to its end. -/
def Framing.read? (stalls : Bool) (bytes : List UInt8) : Framing → Option (List UInt8)
  | empty => some []
  | sized length => if length ≤ bytes.length then some (bytes.take length) else none
  | chunked => readChunks (bytes.length + 1) 0 bytes
  | untilClose => if stalls then none else some bytes

end SessionGateway.Http
