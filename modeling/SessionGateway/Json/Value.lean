import SessionGateway.Number.Binary64

/-! JSON values. The members of an object are kept in the order of their keys, each key once. -/

namespace SessionGateway

inductive Json where
  | null
  | bool (b : Bool)
  | integer (i : Int)
  | real (x : Binary64)
  | string (s : String)
  | array (items : List Json)
  | object (members : List (String × Json))
  deriving Repr, Inhabited

/-- The members of an object. -/
abbrev Members := List (String × Json)

namespace Members

/-- The last value given to a key stands. -/
def insert (key : String) (value : Json) : Members → Members
  | [] => [(key, value)]
  | (k, v) :: rest =>
    if key < k then (key, value) :: (k, v) :: rest
    else if key = k then (key, value) :: rest
    else (k, v) :: insert key value rest

/-- The members that a sequence of keys and values leaves. -/
def ofPairs (pairs : List (String × Json)) : Members :=
  pairs.foldl (fun members p => insert p.1 p.2 members) []

def get? (key : String) (members : Members) : Option Json :=
  members.lookup key

end Members

namespace Json

/-- Integers that keep their digits: 64 bits, with a sign or without. -/
def InRange (i : Int) : Prop := -(power 2 63) ≤ i ∧ i < power 2 64

instance (i : Int) : Decidable (InRange i) := by unfold InRange; infer_instance

/-- The number an integer literal stands for: itself where it fits, else the nearest real. -/
def ofInt (i : Int) : Json :=
  if InRange i then .integer i else .real (.ofInt i)

end Json

end SessionGateway
