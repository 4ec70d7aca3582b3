import SessionGateway.Json.Value
import SessionGateway.Number.Binary64
import SessionGateway.Text.Lowercase
import SessionGateway.Toml.Value

/-! Settings from any source, as trees that remember where each part came from. Laying one source
over another merges tables key by key; keys are told apart by their lower case. -/

namespace SessionGateway

inductive Scalar where
  | absent
  | boolean (b : Bool)
  | integer (i : Int)
  | real (x : Binary64)
  | text (s : String)
  deriving DecidableEq, Repr

inductive Setting where
  | scalar (origin : Option String) (value : Scalar)
  | list (origin : Option String) (items : List Setting)
  | table (origin : Option String) (entries : List (String × Setting))
  deriving Repr, Inhabited

namespace Setting

/-- A part that is there but holds nothing yet. -/
def blank : Setting := .scalar none .absent

def emptyTable : Setting := .table none []

mutual

/-- A JSON value; integers beyond a signed word become reals. -/
def ofJson (origin : Option String) : Json → Setting
  | .null => .scalar origin .absent
  | .bool b => .scalar origin (.boolean b)
  | .integer i => .scalar origin (if i < power 2 63 then .integer i else .real (.ofInt i))
  | .real x => .scalar origin (.real x)
  | .string s => .scalar origin (.text s)
  | .array items => .list origin (ofJsonItems origin items)
  | .object members => .table origin (ofJsonMembers origin members)

def ofJsonItems (origin : Option String) : List Json → List Setting
  | [] => []
  | v :: items => ofJson origin v :: ofJsonItems origin items

def ofJsonMembers (origin : Option String) : List (String × Json) → List (String × Setting)
  | [] => []
  | (key, v) :: members => (key, ofJson origin v) :: ofJsonMembers origin members

end

mutual

/-- A TOML value; dates and times are texts. -/
def ofToml (origin : Option String) : Toml → Setting
  | .text s => .scalar origin (.text s)
  | .integer i => .scalar origin (.integer i)
  | .real x => .scalar origin (.real x)
  | .boolean b => .scalar origin (.boolean b)
  | .moment s => .scalar origin (.text s)
  | .array items => .list origin (ofTomlItems origin items)
  | .table _ entries => .table origin (ofTomlEntries origin entries)
  | .tables last earlier =>
    .list origin ((ofTomlItems origin earlier).reverse ++ [ofToml origin last])

def ofTomlItems (origin : Option String) : List Toml → List Setting
  | [] => []
  | v :: items => ofToml origin v :: ofTomlItems origin items

def ofTomlEntries (origin : Option String) : List (String × Toml) → List (String × Setting)
  | [] => []
  | (key, v) :: entries => (key, ofToml origin v) :: ofTomlEntries origin entries

end

/-- The entries of a table; anything else has none. -/
def entries : Setting → List (String × Setting)
  | .table _ entries => entries
  | _ => []

/-- Anything but a table gives way to an empty one. -/
def asTable : Setting → Setting
  | .table origin entries => .table origin entries
  | _ => emptyTable

/-- Changes the value of a key, which starts as `fresh` when there is none. -/
def changeEntry (key : String) (fresh : Setting) (f : Setting → Setting) :
    List (String × Setting) → List (String × Setting)
  | [] => [(key, f fresh)]
  | (k, v) :: rest =>
    if k = key then (k, f v) :: rest else (k, v) :: changeEntry key fresh f rest

def changeKey (key : String) (fresh : Setting) (f : Setting → Setting) (s : Setting) : Setting :=
  match s.asTable with
  | .table origin entries => .table origin (changeEntry (Text.lowercase key) fresh f entries)
  | s => s

/-- Changes an item of a list, which is filled up with blanks to reach it; a negative index counts
from the end. -/
def changeItem (index : Int) (f : Setting → Setting) (s : Setting) : Setting :=
  let (origin, items) := match s with
    | .list origin items => (origin, items)
    | _ => (none, [])
  let i := if index < 0 then (items.length + index).toNat else index.toNat
  let filled := items ++ List.replicate (i + 1 - items.length) blank
  .list origin (filled.modify i f)

mutual

/-- Puts a value under a key: tables are merged, and anything else replaces what was there. -/
def put (key : String) : Setting → Setting → Setting
  | .table _ entries, target => changeKey key emptyTable (putAll entries) target
  | .list origin items, target => changeKey key blank (fun _ => .list origin items) target
  | .scalar origin value, target => changeKey key blank (fun _ => .scalar origin value) target

def putAll : List (String × Setting) → Setting → Setting
  | [], target => target
  | (key, v) :: rest, target => putAll rest (put key v target)

end

end Setting

end SessionGateway
