import SessionGateway.Toml.Fault

/-! Readers and how they are tried, and what stands between the parts of a document: blanks,
comments and line breaks. -/

namespace SessionGateway.TomlText

abbrev Reader (α : Type) := List Char → Except Fault (α × List Char)

def committed {α : Type} (r : Except Fault α) : Except Fault α := r.mapError Fault.commit

def inside {α : Type} (label : String) (r : Except Fault α) : Except Fault α :=
  r.mapError (Fault.inside label)

def wanting {α : Type} (what : String) (r : Except Fault α) : Except Fault α :=
  r.mapError (Fault.wanting what)

/-- None where nothing was committed to. -/
def attempt {α : Type} (r : Except Fault α) : Except Fault (Option α) :=
  match r with
  | .ok a => .ok (some a)
  | .error fault => if fault.committed then .error fault else .ok none

/-- What the first of several readers makes of a text. Where none can, the last one's fault is told
of the start. -/
def oneOf {α : Type} : List (Reader α) → Reader α
  | [], cs => .error (.before cs)
  | read :: others, cs =>
    match read cs with
    | .ok r => .ok r
    | .error fault =>
      if fault.committed then .error fault
      else if others.isEmpty then .error { fault with unread := cs.length }
      else oneOf others cs

/-- The rest after a character. -/
def expectChar (c : Char) (cs : List Char) : Except Fault (List Char) :=
  match cs with
  | d :: rest => if d = c then .ok rest else .error (.before cs)
  | [] => .error (.before [])

def isSpace (c : Char) : Bool := c = ' ' || c = '\t'

def skipSpaces (cs : List Char) : List Char := cs.dropWhile isSpace

/-- Characters that comments and literal strings may hold. -/
def isPlain (c : Char) : Bool := c = '\t' || (0x20 ≤ c.toNat && c.toNat ≠ 0x7F)

/-- The rest after a line break, if one is next. -/
def lineBreak? : List Char → Option (List Char)
  | '\n' :: cs => some cs
  | '\r' :: '\n' :: cs => some cs
  | _ => none

def skipComment : List Char → List Char
  | '#' :: cs => cs.dropWhile isPlain
  | cs => cs

/-- The rest after a line break, or the end. -/
def endLine (cs : List Char) : Except Fault (List Char) :=
  match cs with
  | [] => .ok []
  | cs =>
    match lineBreak? cs with
    | some rest => .ok rest
    | none => .error (.before cs)

/-- The rest of a line after its content: blanks, a comment, and a line break or the end. -/
def endContent (cs : List Char) : Except Fault (List Char) :=
  wanting "`#`" (wanting "newline" (endLine (skipComment (skipSpaces cs))))

/-- Blanks, comments and line breaks. A comment has to end with its line here. -/
def skipLayout : Nat → List Char → Except Fault (List Char)
  | 0, cs => .ok cs
  | fuel + 1, cs =>
    let rest := skipSpaces cs
    match rest.head? with
    | some '#' | some '\n' | some '\r' =>
      match lineBreak? (skipComment rest) with
      | some rest => skipLayout fuel rest
      | none => .error (.before (skipComment rest))
    | _ => .ok rest

end SessionGateway.TomlText
