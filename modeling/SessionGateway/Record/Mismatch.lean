import SessionGateway.Number.Shortest
import SessionGateway.Text.Quoted

/-! Why well-formed data is not a record of the wanted shape. The causes are shared by every kind
of source; sources differ in how they name an absent value and lay out a number. -/

namespace SessionGateway

/-- What was found where something else was wanted. -/
inductive Found where
  | absent
  | boolean (b : Bool)
  | integer (i : Int)
  | real (x : Binary64)
  | string (s : String)
  | sequence
  | map
  deriving DecidableEq, Repr

inductive Mismatch where
  | wrongType (found : Found) (wanted : String)
  | wrongValue (found : Found) (wanted : String)
  | wrongLength (count : Nat) (wanted : String)
  | unknownVariant (name : String) (variants : List String)
  | missingField (name : String)
  | repeatedField (name : String)
  deriving DecidableEq, Repr

/-- How a source words what it found. -/
structure FoundWording where
  absent : String
  real : Binary64 → String

def Found.text (wording : FoundWording) : Found → String
  | absent => wording.absent
  | boolean b => "boolean `" ++ toString b ++ "`"
  | integer i => "integer `" ++ toString i ++ "`"
  | real x => "floating point `" ++ wording.real x ++ "`"
  | string s => "string " ++ Text.quoted s
  | sequence => "sequence"
  | map => "map"

/-- The names one by one, as alternatives. -/
def alternatives (names : List String) : String :=
  match names with
  | [] => "there are no variants"
  | [a] => "expected `" ++ a ++ "`"
  | [a, b] => "expected `" ++ a ++ "` or `" ++ b ++ "`"
  | _ => "expected one of " ++ ", ".intercalate (names.map fun n => "`" ++ n ++ "`")

def Mismatch.text (wording : FoundWording) : Mismatch → String
  | wrongType found wanted => "invalid type: " ++ found.text wording ++ ", expected " ++ wanted
  | wrongValue found wanted => "invalid value: " ++ found.text wording ++ ", expected " ++ wanted
  | wrongLength count wanted => "invalid length " ++ toString count ++ ", expected " ++ wanted
  | unknownVariant name variants =>
    "unknown variant `" ++ name ++ "`, " ++ alternatives variants
  | missingField name => "missing field `" ++ name ++ "`"
  | repeatedField name => "duplicate field `" ++ name ++ "`"

end SessionGateway
