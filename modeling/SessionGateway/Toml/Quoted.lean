import SessionGateway.Text.Ascii
import SessionGateway.Toml.Layout

/-! Strings: basic ones with escapes and literal ones, on one line or on several. -/

namespace SessionGateway.TomlText

def hexNumber? (digits : List Char) : Option Nat :=
  digits.foldl (fun n c => do return 16 * (← n) + (← Text.hexValue? c)) (some 0)

/-- A character given by `count` hexadecimal digits. -/
def readCodePoint (count : Nat) (cs : List Char) : Except Fault (Char × List Char) :=
  committed <| inside ("unicode " ++ toString count ++ "-digit hex code") <|
    match if (cs.take count).length = count then hexNumber? (cs.take count) else none with
    | some n =>
      if n < 0xD800 ∨ (0xDFFF < n ∧ n < 0x110000) then .ok (Char.ofNat n, cs.drop count)
      else .error (.because .outOfRange cs)
    | none => .error (.before cs)

/-- The letters of escapes, as they are told where another one stands. -/
def escapeLetters : List String :=
  ["`b`", "`f`", "`n`", "`r`", "`t`", "`u`", "`U`", "`\\`", "`\"`"]

/-- A fault at a letter that no escape has, or behind it where it is an ASCII one. -/
def unknownEscape (c : Char) (rest : List Char) : Fault :=
  let place := if c.utf8Size = 1 then rest else c :: rest
  { Fault.before place with
    label := some "escape sequence", expected := escapeLetters, committed := true }

/-- The character that an escape stands for, after the backslash. -/
def readEscape : Reader Char
  | 'b' :: cs => .ok ('\x08', cs)
  | 't' :: cs => .ok ('\t', cs)
  | 'n' :: cs => .ok ('\n', cs)
  | 'f' :: cs => .ok ('\x0c', cs)
  | 'r' :: cs => .ok ('\r', cs)
  | '"' :: cs => .ok ('"', cs)
  | '\\' :: cs => .ok ('\\', cs)
  | 'u' :: cs => readCodePoint 4 cs
  | 'U' :: cs => readCodePoint 8 cs
  | c :: cs => .error (unknownEscape c cs)
  | [] => .error (.before [])

/-- A string that is not closed where it ends. -/
def unclosed (label : String) (rest : List Char) : Fault :=
  ((Fault.before rest).inside label).commit

/-- A basic string after its opening quote. -/
def readBasic : Nat → List Char → Reader (List Char)
  | 0, _, cs => .error (unclosed "basic string" cs)
  | _ + 1, _, [] => .error (unclosed "basic string" [])
  | fuel + 1, done, c :: cs =>
    if c = '"' then .ok (done.reverse, cs)
    else if c = '\\' then do
      match ← attempt (readEscape cs) with
      | some (d, cs) => readBasic fuel (d :: done) cs
      | none => .error (unclosed "basic string" (c :: cs))
    else if isPlain c then readBasic fuel (c :: done) cs
    else .error (unclosed "basic string" (c :: cs))

def isLiteral (c : Char) : Bool := c ≠ '\'' && isPlain c

/-- A literal string after its opening quote. -/
def readLiteral (cs : List Char) : Except Fault (List Char × List Char) :=
  match cs.dropWhile isLiteral with
  | '\'' :: rest => .ok (cs.takeWhile isLiteral, rest)
  | rest => .error (unclosed "literal string" rest)

/-- The rest after a backslash at the end of a line and the blanks that follow it; none when the
line does not end there. -/
def afterLineEnd? (fuel : Nat) (cs : List Char) : Option (List Char) :=
  (lineBreak? (skipSpaces cs)).map (skipBlankLines fuel)
where
  skipBlankLines : Nat → List Char → List Char
    | 0, cs => cs
    | fuel + 1, cs =>
      match lineBreak? (skipSpaces cs) with
      | some rest => skipBlankLines fuel rest
      | none => skipSpaces cs

/-- The two kinds of strings over several lines. -/
inductive LongKind where
  | basic
  | literal
  deriving DecidableEq, Repr

namespace LongKind

def quote : LongKind → Char
  | basic => '"'
  | literal => '\''

def label : LongKind → String
  | basic => "multiline basic string"
  | literal => "multiline literal string"

/-- Whether something that is no quote belongs to such a string, by its start. -/
def goesOn (kind : LongKind) (cs : List Char) : Bool :=
  match cs with
  | c :: _ => (lineBreak? cs).isSome || isPlain c && (kind = .literal || c ≠ '\\')
  | [] => false

end LongKind

/-- A string over several lines, after its opening quotes. Up to two quotes may stand before the
three that close it, and before something that goes on. -/
def readLong (kind : LongKind) : Nat → List Char → Reader (List Char)
  | 0, _, cs => .error (unclosed kind.label cs)
  | _ + 1, _, [] => .error (unclosed kind.label [])
  | fuel + 1, done, c :: cs =>
    let quotes := ((c :: cs).takeWhile (· == kind.quote)).length
    let after := (c :: cs).drop quotes
    if 3 ≤ quotes then
      let inner := min (quotes - 3) 2
      .ok (done.reverse ++ List.replicate inner kind.quote, (c :: cs).drop (inner + 3))
    else if 0 < quotes then
      if after.isEmpty || (kind = .literal && !kind.goesOn after) then
        .error (unclosed kind.label (c :: cs))
      else readLong kind fuel (List.replicate quotes kind.quote ++ done) after
    else if c = '\\' && kind = .basic then
      match afterLineEnd? fuel cs with
      | some rest => readLong kind fuel done rest
      | none => do
        match ← attempt (readEscape cs) with
        | some (d, cs) => readLong kind fuel (d :: done) cs
        | none => .error (unclosed kind.label (c :: cs))
    else match lineBreak? (c :: cs) with
      | some rest => readLong kind fuel ('\n' :: done) rest
      | none =>
        if isPlain c then readLong kind fuel (c :: done) cs
        else .error (unclosed kind.label (c :: cs))

def afterFirstBreak (cs : List Char) : List Char := (lineBreak? cs).getD cs

/-- A string from its opening quotes on. -/
def readString (fuel : Nat) (cs : List Char) : Except Fault (String × List Char) := do
  let (chars, rest) ← match cs with
    | '"' :: '"' :: '"' :: cs => readLong .basic fuel [] (afterFirstBreak cs)
    | '\'' :: '\'' :: '\'' :: cs => readLong .literal fuel [] (afterFirstBreak cs)
    | '"' :: cs => readBasic fuel [] cs
    | '\'' :: cs => readLiteral cs
    | cs => .error (.before cs)
  return (String.ofList chars, rest)

end SessionGateway.TomlText
