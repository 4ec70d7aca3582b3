import SessionGateway.Text.Ascii
import SessionGateway.Toml.Value

/-! What is told about a document that breaks the rules: what was being read, what would have been
right, and where. -/

namespace SessionGateway.TomlText

/-- Why something of the right form is refused all the same. -/
inductive Cause where
  | outOfRange
  | tooLarge
  | tooSmall
  | nestedTooDeep
  | conflict (c : Toml.Conflict)
  deriving DecidableEq, Repr

namespace Cause

def message : Cause → String
  | outOfRange => "value is out of range"
  | tooLarge => "number too large to fit in target type"
  | tooSmall => "number too small to fit in target type"
  | nestedTooDeep => "recursion limit exceeded"
  | conflict c => c.message

end Cause

structure Fault where
  /-- The innermost thing with a name that was being read. -/
  label : Option String
  /-- What could have stood there. -/
  expected : List String
  cause : Option Cause
  /-- How many characters were left. -/
  unread : Nat
  /-- Nothing else can be tried in place of what was being read. -/
  committed : Bool
  deriving DecidableEq, Repr

namespace Fault

/-- A fault without more to tell, before the given rest. -/
def before (rest : List Char) : Fault := ⟨none, [], none, rest.length, false⟩

def because (cause : Cause) (rest : List Char) : Fault := ⟨none, [], some cause, rest.length, false⟩

def inside (label : String) (f : Fault) : Fault := { f with label := f.label <|> some label }

def wanting (what : String) (f : Fault) : Fault := { f with expected := f.expected ++ [what] }

def commit (f : Fault) : Fault := { f with committed := true }

def detail (f : Fault) : String :=
  "\n".intercalate
    ((f.label.map ("invalid " ++ ·)).toList ++
      (if f.expected.isEmpty then [] else ["expected " ++ ", ".intercalate f.expected]) ++
      (f.cause.map Cause.message).toList)

end Fault

/-- A place in a text: its line, how far from the line's start, and the bytes to mark. -/
structure Place where
  line : Nat
  column : Nat
  width : Nat
  deriving DecidableEq, Repr

def lineStart (read : List Char) : List Char := (read.reverse.takeWhile (· != '\n')).reverse

/-- The place before the last `unread` characters. It is counted in characters, but in bytes before
one of several bytes. The end lies behind the last character. -/
def placeBefore (text : List Char) (unread : Nat) : Place :=
  let read := text.take (text.length - unread)
  match text.drop (text.length - unread) with
  | c :: _ =>
    let front := lineStart read
    let column := if c.utf8Size = 1 then front.length else (String.ofList front).utf8ByteSize
    ⟨read.count '\n', column, c.utf8Size⟩
  | [] =>
    let before := text.dropLast
    let column := if text.isEmpty then 0 else (lineStart before).length + 1
    ⟨before.count '\n', column, 0⟩

/-- A fault shown in its line. -/
def Fault.message (text : String) (fault : Fault) : String :=
  let place := placeBefore text.toList fault.unread
  let content := String.ofList
    (((Text.splitAtChar (· == '\n') text.toList)[place.line]?).getD [])
  let number := toString (place.line + 1)
  let blanks (n : Nat) := String.ofList (List.replicate n ' ')
  let gutter := blanks (number.length + 1) ++ "|"
  let width := max 1 (min place.width (content.utf8ByteSize - place.column))
  "TOML parse error at line " ++ number ++ ", column " ++ toString (place.column + 1) ++ "\n" ++
    gutter ++ "\n" ++ number ++ " | " ++ content ++ "\n" ++ gutter ++
    blanks (place.column + 1) ++ String.ofList (List.replicate width '^') ++ "\n" ++
    fault.detail ++ "\n"

end SessionGateway.TomlText
