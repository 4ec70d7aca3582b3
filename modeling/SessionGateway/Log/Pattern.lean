import SessionGateway.Text.Alphanumeric
import SessionGateway.Text.Ascii

/-! Which texts are patterns: alternatives of sequences of characters, classes in brackets, places
and groups, of which any may be repeated. The reading knows no tables of characters beyond the
ASCII range, so that classes by a letter and comparisons without regard to case need the mode in
which a pattern is about bytes. -/

namespace SessionGateway.Pattern

/-- What a pattern switches on and off inside of its groups. -/
structure Modes where
  /-- Blanks and remarks are no part of the pattern. -/
  spaced : Bool
  caseless : Bool
  /-- The pattern is about bytes and not about characters. -/
  bytewise : Bool
  deriving DecidableEq, Repr

/-- Everything after the blanks, and after remarks from a number sign to the end of its line. -/
def skipRemarks (inRemark : Bool) : List Char → List Char
  | [] => []
  | c :: cs =>
    if inRemark then skipRemarks (c != '\n') cs
    else if c = '#' then skipRemarks true cs
    else if Text.isBlank c then skipRemarks false cs
    else c :: cs

namespace Modes

def start : Modes := ⟨false, false, false⟩

def skip (m : Modes) (cs : List Char) : List Char :=
  if m.spaced then skipRemarks false cs else cs

/-- Comparing characters without regard to case takes a table that is not there. -/
def lacksTable (m : Modes) : Bool := m.caseless && !m.bytewise

/-- A mode is changed by its letter, before a dash or after it. -/
def changed (m : Modes) (on off : List Char) : Modes :=
  let state (letter : Char) (now : Bool) :=
    if on.contains letter then true else if off.contains letter then false else now
  ⟨state 'x' m.spaced, state 'i' m.caseless, !state 'u' !m.bytewise⟩

end Modes

/-- What stands at one place of a pattern. -/
inductive Item where
  | character (c : Char)
  /-- One of several characters. -/
  | kind
  /-- A position between characters. -/
  | place
  deriving DecidableEq, Repr

/-- A character by a number of hexadecimal digits. -/
def readCode (m : Modes) (digits : Nat) (cs : List Char) : Option (Item × List Char) := do
  let code ← (cs.take digits).foldlM (fun n c => (Text.hexValue? c).map (16 * n + ·)) 0
  if cs.length < digits || !code.isValidChar || m.bytewise && digits = 2 && code ≥ 0x80 then none
  else some (.character (Char.ofNat code), cs.drop digits)

/-- Marks that are characters only after a backslash; so is every mark that has no meaning. -/
def isMark (c : Char) : Bool :=
  c.toNat < 0x80 && !c.isAlphanum && c != '<' && c != '>'

/-- Control characters by a letter. -/
def controls : List (Char × Char) :=
  [('a', '\x07'), ('t', '\t'), ('n', '\n'), ('v', '\x0b'), ('f', '\x0c'), ('r', '\r')]

/-- What follows a backslash. -/
def readEscape (m : Modes) : List Char → Option (Item × List Char)
  | [] => none
  | c :: cs =>
    if c = 'x' then readCode m 2 (m.skip cs)
    else if c = 'u' then readCode m 4 (m.skip cs)
    else if c = 'U' then readCode m 8 (m.skip cs)
    else if isMark c then some (.character c, cs)
    else if let some control := controls.lookup c then some (.character control, cs)
    else if c = 'A' || c = 'z' || m.bytewise && "bB<>".contains c then some (.place, cs)
    else if m.bytewise && "dsw".contains c then some (.kind, cs)
    else none

/-- A member of a class, or an end of a range. -/
def readMember (m : Modes) : List Char → Option (Item × List Char)
  | [] => none
  | '\\' :: cs => readEscape m cs
  | c :: cs => if m.bytewise && c.toNat ≥ 0x80 then none else some (.character c, cs)

/-- The rest after a member of a class or a range of them. A dash is a member where it ends the
class or begins a difference. -/
def afterMember? (m : Modes) (cs : List Char) : Option (List Char) := do
  let (first, rest) ← readMember m cs
  let single := if first = .place then none else some (m.skip rest)
  match m.skip rest with
  | '-' :: after =>
    match m.skip after with
    | ']' :: _ | '-' :: _ => single
    | after =>
      match first, ← readMember m after with
      | .character a, (.character b, rest) => if a ≤ b then some rest else none
      | _, _ => none
  | _ => single

/-- Classes that have a name. -/
def classNames : List String :=
  ["alnum", "alpha", "ascii", "blank", "cntrl", "digit", "graph", "lower", "print", "punct",
    "space", "upper", "word", "xdigit"]

/-- The rest after the name of a class, of which the opening bracket has been read. -/
def afterNamed? (cs : List Char) : Option (List Char) := do
  let inside ← Text.afterStart? [':'] cs
  let inside := (Text.afterStart? ['^'] inside).getD inside
  let (name, rest) := inside.span (· != ':')
  if classNames.contains (String.ofList name) then Text.afterStart? [':', ']'] rest else none

/-- The rest after the dashes that a class begins with, or after a bracket that it begins with
instead, which are members. Bytes outside of a class are no characters. -/
def afterOpening? (m : Modes) (cs : List Char) : Option (List Char) :=
  match m.skip cs with
  | '^' :: rest => if m.bytewise then none else some (front (m.skip rest))
  | cs => some (front cs)
where
  dashes : Nat → List Char → List Char
    | fuel + 1, '-' :: rest => dashes fuel (m.skip rest)
    | _, cs => cs
  front (cs : List Char) : List Char :=
    match cs with
    | ']' :: rest => rest
    | cs => dashes cs.length cs

/-- The rest after a class, `depth` more around it. Every round reads a character at least. -/
def afterClass? (m : Modes) : Nat → Nat → List Char → Option (List Char)
  | 0, _, _ => none
  | fuel + 1, depth, cs =>
    match m.skip cs with
    | [] => none
    | '[' :: rest =>
      match afterNamed? rest with
      | some rest => afterClass? m fuel depth rest
      | none => (afterOpening? m rest).bind (afterClass? m fuel (depth + 1))
    | ']' :: rest => if depth = 0 then some rest else afterClass? m fuel (depth - 1) rest
    | '&' :: '&' :: rest | '-' :: '-' :: rest | '~' :: '~' :: rest =>
      afterClass? m fuel depth rest
    | cs => (afterMember? m cs).bind (afterClass? m fuel depth)

/-- How far a pattern has been read. -/
structure Reading where
  modes : Modes
  /-- The modes around the groups that are open, the innermost first. -/
  around : List Modes
  /-- There is something to repeat. -/
  repeatable : Bool
  /-- The names of groups. -/
  names : List (List Char)

namespace Reading

def start : Reading := ⟨.start, [], false, []⟩

def item (r : Reading) : Reading := { r with repeatable := true }

/-- A group begins, with modes of its own. -/
def opened (r : Reading) (modes : Modes) : Reading :=
  { r with modes, around := r.modes :: r.around, repeatable := false }

/-- The letters of the modes; a dash comes before those that are switched off. -/
def modeLetters : List Char := ['i', 'm', 's', 'U', 'u', 'R', 'x']

/-- Letters of modes up to the end of the group or to a colon before its content. -/
def takeModes (r : Reading) (cs : List Char) : Option (Reading × List Char) :=
  let (letters, rest) := cs.span fun c => c != ':' && c != ')'
  let (on, off) := letters.span (· != '-')
  let known := letters.all (fun c => c = '-' || modeLetters.contains c) && letters.Nodup
  if !known || off = ['-'] then none
  else match rest with
    | ':' :: rest => some (r.opened (r.modes.changed on off), rest)
    | ')' :: rest =>
      if letters.isEmpty then none
      else some ({ r with modes := r.modes.changed on off, repeatable := false }, rest)
    | _ => none

/-- Names begin with a letter or a low line; digits, points and brackets may follow. -/
def isName : List Char → Bool
  | [] => false
  | c :: cs =>
    (c = '_' || Text.isAlphanumeric c && !c.isDigit) &&
      cs.all fun c => ['_', '.', '[', ']'].contains c || Text.isAlphanumeric c

/-- The name of a group up to its closing mark. -/
def takeName (r : Reading) (cs : List Char) : Option (Reading × List Char) :=
  match cs.span (· != '>') with
  | (name, _ :: rest) =>
    if isName name && !r.names.contains name then
      some ({ r with names := name :: r.names }.opened r.modes, rest)
    else none
  | _ => none

/-- What follows an opening parenthesis. Conditions on what stands around are no groups. -/
def takeOpening (r : Reading) (cs : List Char) : Option (Reading × List Char) :=
  match r.modes.skip cs with
  | '?' :: '=' :: _ | '?' :: '!' :: _ | '?' :: '<' :: '=' :: _ | '?' :: '<' :: '!' :: _ => none
  | '?' :: 'P' :: '<' :: cs | '?' :: '<' :: cs => r.takeName cs
  | '?' :: cs => r.takeModes cs
  | cs => some (r.opened r.modes, cs)

/-- One step on, past the character `c`. Braces would need a closing one, which a directive's field
cannot hold. -/
def take (r : Reading) (c : Char) (cs : List Char) : Option (Reading × List Char) :=
  match c with
  | '(' => r.takeOpening cs
  | ')' =>
    match r.around with
    | [] => none
    | modes :: around => some ({ r with modes, around }.item, cs)
  | '|' => some ({ r with repeatable := false }, cs)
  | '*' | '+' | '?' => if r.repeatable then some (r, cs) else none
  | '\x7b' => none
  | '[' =>
    if r.modes.lacksTable then none
    else
      ((afterOpening? r.modes cs).bind (afterClass? r.modes (cs.length + 1) 0)).map (r.item, ·)
  | '\\' => do
    let (item, rest) ← readEscape r.modes cs
    match item with
    | .character _ => if r.modes.lacksTable then none else some (r.item, rest)
    | _ => some (r.item, rest)
  | '.' => if r.modes.bytewise then none else some (r.item, cs)
  | '^' | '$' => some (r.item, cs)
  | _ => if r.modes.lacksTable then none else some (r.item, cs)

/-- Whether the rest completes the pattern. Every round takes a character at least. -/
def completes : Nat → Reading → List Char → Bool
  | 0, _, _ => false
  | fuel + 1, r, cs =>
    match r.modes.skip cs with
    | [] => r.around.isEmpty
    | c :: cs => (r.take c cs).any fun (r, rest) => completes fuel r rest

end Reading

/-- Whether a text without closing braces is a pattern. -/
def isPattern (cs : List Char) : Bool := Reading.start.completes (cs.length + 1) cs

end SessionGateway.Pattern
