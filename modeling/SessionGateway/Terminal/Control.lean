import SessionGateway.Text.Utf8

/-! Control sequences of terminals, and texts without them: what begins with an escape character
is left out up to its end, and so is every control character that is not white space. -/

namespace SessionGateway.Terminal

/-- Where in a control sequence a text is. -/
inductive State where
  /-- Outside of all sequences. -/
  | ground
  /-- After an escape character. -/
  | escape
  /-- After an escape character and marks. -/
  | marked
  /-- In parameters, up to a letter. -/
  | parameters
  /-- In a command to the system, up to a bell. -/
  | command
  /-- In another string, up to its terminator. -/
  | string
  deriving DecidableEq, Repr

/-- Whether one of the character's bytes ends a string. -/
def endsString (c : Char) : Bool := (String.utf8EncodeChar c).contains 0x9C

namespace State

/-- After an escape character. -/
def afterEscape (c : Char) : State :=
  if c = '[' then parameters
  else if c = ']' then command
  else if ['P', 'X', '^', '_'].contains c then string
  else if ' ' ≤ c ∧ c ≤ '/' then marked
  else if '0' ≤ c ∧ c ≤ '~' then ground
  else escape

/-- Two characters break off every sequence, and an escape character begins another. -/
def next (s : State) (c : Char) : State :=
  if c = '\x1b' then escape
  else if c = '\x18' ∨ c = '\x1a' then ground
  else match s with
    | ground => ground
    | escape => afterEscape c
    | marked => if '0' ≤ c ∧ c ≤ '~' then ground else marked
    | parameters => if '@' ≤ c ∧ c ≤ '~' then ground else parameters
    | command => if c = '\x07' then ground else command
    | string => if endsString c then ground else string

/-- White space counts in the sequences too that hold no string. -/
def shows (s : State) (c : Char) : Bool :=
  match s with
  | ground => ['\t', '\n', '\x0c', '\r'].contains c || (0x20 ≤ c.toNat && c.toNat ≠ 0x7F)
  | command | string => false
  | _ => ['\t', '\n', '\x0c', '\r'].contains c

end State

/-- What is left of a text without control sequences. After a character that shows, all others show
that do so outside of sequences; the first that does not goes on where the last sequence was. -/
def withoutControlFrom (s : State) (showing : Bool) : List Char → List Char
  | [] => []
  | c :: cs =>
    if (if showing then State.ground else s).shows c then
      c :: withoutControlFrom (if c.toNat < 0x80 then s else .ground) true cs
    else withoutControlFrom (s.next c) false cs

def withoutControl (text : String) : String :=
  String.ofList (withoutControlFrom .ground false text.toList)

end SessionGateway.Terminal
