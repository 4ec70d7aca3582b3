import SessionGateway.Terminal.Control

/-! Texts with parts that stand out on a terminal. -/

namespace SessionGateway.Terminal

inductive Style where
  | plain
  | title
  | literal
  | fault
  | culprit
  deriving DecidableEq, Repr

/-- The sequences that switch a style on. -/
def Style.sequence : Style → String
  | plain => ""
  | title => "\x1b[1m\x1b[4m"
  | literal => "\x1b[1m"
  | fault => "\x1b[1m\x1b[31m"
  | culprit => "\x1b[33m"

/-- Parts one after the other, each with its style. -/
abbrev Styled := List (Style × String)

namespace Styled

/-- The text without its styles. -/
def plainText (s : Styled) : String := String.join (s.map Prod.snd)

def length (s : Styled) : Nat := s.plainText.length

/-- The text with its styles as control sequences. -/
def sequenced (s : Styled) : String :=
  String.join (s.map fun part =>
    if part.1 = .plain then part.2 else part.1.sequence ++ part.2 ++ "\x1b[0m")

/-- The text as it is written: in colours with everything, else without any control sequence, also
of its own. -/
def shown (colours : Bool) (s : Styled) : String :=
  if colours then s.sequenced else withoutControl s.sequenced

end Styled

end SessionGateway.Terminal
