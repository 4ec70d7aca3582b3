import SessionGateway.Number.Binary64

/-! TOML documents as trees of tables. A table remembers how it came about, since that decides
whether later lines may add to it. -/

namespace SessionGateway

/-- How a table came about. -/
inductive TableOrigin where
  /-- Its own header, or the document itself. -/
  | header
  /-- On the way to a table with a header. -/
  | passedByHeader
  /-- On the way to the last part of a dotted key. -/
  | passedByKey
  /-- Written in braces, and complete with them. -/
  | inline
  deriving DecidableEq, Repr

inductive Toml where
  | text (s : String)
  | integer (i : Int)
  | real (x : Binary64)
  | boolean (b : Bool)
  /-- A date, a time or both, in their normal form. -/
  | moment (s : String)
  | array (items : List Toml)
  | table (origin : TableOrigin) (entries : List (String × Toml))
  /-- Tables with headers in double brackets, the last one first. -/
  | tables (last : Toml) (earlier : List Toml)
  deriving Repr, Inhabited

namespace Toml

/-- Why a document cannot take an entry or a header. -/
inductive Conflict where
  /-- The key is taken. Where the table was found by a header, the table is told. -/
  | taken (key : String) (home : Option (List String))
  /-- The path goes on after a value that takes no keys. -/
  | closed (path : List String) (kind : String)
  deriving DecidableEq, Repr

namespace Conflict

def homeText : List String → String
  | [] => "document root"
  | path => "table `" ++ ".".intercalate path ++ "`"

def message : Conflict → String
  | taken key home => "duplicate key `" ++ key ++ "`" ++ home.elim "" fun h => " in " ++ homeText h
  | closed path kind =>
    "dotted key `" ++ ".".intercalate path ++ "` attempted to extend non-table type (" ++
      kind ++ ")"

end Conflict

def kind : Toml → String
  | text _ => "string"
  | integer _ => "integer"
  | real _ => "float"
  | boolean _ => "boolean"
  | moment _ => "datetime"
  | array _ => "array"
  | table .inline _ => "inline table"
  | table _ _ => "table"
  | tables _ _ => "array of tables"

def emptyTable (origin : TableOrigin) : Toml := .table origin []

/-- Replaces the value of a key, or adds the key at the end. -/
def putEntry (key : String) (v : Toml) : List (String × Toml) → List (String × Toml)
  | [] => [(key, v)]
  | (k, old) :: rest => if k = key then (k, v) :: rest else (k, old) :: putEntry key v rest

/-- What leads from a table to one below it. -/
inductive Passage where
  | header
  | dottedKey
  /-- A dotted key in braces. -/
  | keyInBraces
  deriving DecidableEq, Repr

namespace Passage

/-- The origin of tables that come into being on the way. -/
def origin : Passage → TableOrigin
  | header => .passedByHeader
  | dottedKey => .passedByKey
  | keyInBraces => .passedByKey

/-- Why a table on the way cannot be passed, if it cannot: one in braces is closed, and one with a
header of its own is closed to keys. -/
def refusal? (passage : Passage) (path : List String) (key : String) :
    TableOrigin → Option Conflict
  | .inline =>
    match passage with
    | keyInBraces => some (.taken key none)
    | _ => some (.closed path (kind (emptyTable .inline)))
  | .header => if passage = header then none else some (.taken key none)
  | _ => none

end Passage

/-- Changes the table at the end of a path, of which `passed` lies behind. Tables on the way come
into being, and an array of tables is passed by its last one. -/
def descend (passage : Passage) (change : Toml → Except Conflict Toml) (passed : List String) :
    List String → Toml → Except Conflict Toml
  | key :: path, .table origin entries => do
    let here := passed ++ [key]
    let child ← match entries.lookup key with
      | none => descend passage change here path (emptyTable passage.origin)
      | some (.tables last earlier) =>
        (descend passage change here path last).map (.tables · earlier)
      | some (.table below children) =>
        match passage.refusal? here key below with
        | some conflict => .error conflict
        | none => descend passage change here path (.table below children)
      | some v => .error (.closed here v.kind)
    return .table origin (putEntry key child entries)
  | _, t => change t

/-- Adds a value to a table, which must be one that dotted keys made if it was reached by one, and
otherwise must not. -/
def addEntry (byDottedKey : Bool) (home : Option (List String)) (key : String) (v : Toml) :
    Toml → Except Conflict Toml
  | .table origin entries =>
    if (origin == .passedByKey) != byDottedKey then .error (.taken key none)
    else if (entries.lookup key).isSome then .error (.taken key home)
    else .ok (.table origin (putEntry key v entries))
  | t => .error (.closed [key] t.kind)

/-- Adds a value under a dotted key. -/
def putDotted (passage : Passage) (home : Option (List String)) (path : List String) (v : Toml) :
    Toml → Except Conflict Toml :=
  let front := path.dropLast
  descend passage (addEntry (!front.isEmpty) home (path.getLast?.getD "") v) [] front

/-- Adds a value under a dotted key to the table of a header. -/
def putUnder (header path : List String) (v : Toml) : Toml → Except Conflict Toml :=
  descend .header (putDotted .dottedKey (some header) path v) [] header

def isBareKeyChar (c : Char) : Bool := c.isAlphanum || c = '_' || c = '-'

/-- Characters that quotes do not keep as they are. -/
def isHidden (c : Char) : Bool := (c.toNat < 0x20 && c ≠ '\t') || c.toNat = 0x7F

def escapedInKey (c : Char) : String :=
  match c with
  | '\x08' => "\\b"
  | '\t' => "\\t"
  | '\n' => "\\n"
  | '\x0c' => "\\f"
  | '\r' => "\\r"
  | '"' => "\\\""
  | '\\' => "\\\\"
  | c =>
    if isHidden c then
      let digits := (Nat.toDigits 16 c.toNat).map Char.toUpper
      "\\u" ++ String.ofList (List.replicate (4 - digits.length) '0' ++ digits)
    else c.toString

/-- A key as it would be written, with quotes only where they are needed. -/
def writtenKey (key : String) : String :=
  let cs := key.toList
  if cs ≠ [] ∧ cs.all isBareKeyChar then key
  else if cs.any isHidden ∨ (cs.contains '\'' ∧ (cs.contains '"' ∨ cs.contains '\\')) then
    "\"" ++ String.join (cs.map escapedInKey) ++ "\""
  else if cs.contains '"' ∨ cs.contains '\\' then "'" ++ key ++ "'"
  else "\"" ++ String.join (cs.map escapedInKey) ++ "\""

/-- Opens the table of a header with a path that ends in `key`, in the table that the rest of the
path leads to. It must not have been opened or filled before. -/
def openTable (home : List String) (key : String) : Toml → Except Conflict Toml
  | .table origin entries =>
    match entries.lookup key with
    | none => .ok (.table origin (putEntry key (emptyTable .header) entries))
    | some (.table .passedByHeader below) =>
      .ok (.table origin (putEntry key (.table .header below) entries))
    | some _ => .error (.taken (writtenKey key) (some home))
  | t => .error (.closed [key] t.kind)

/-- Opens one more table of an array of tables. -/
def openArrayTable (home : List String) (key : String) : Toml → Except Conflict Toml
  | .table origin entries =>
    match entries.lookup key with
    | none => .ok (.table origin (putEntry key (.tables (emptyTable .header) []) entries))
    | some (.tables last earlier) =>
      .ok (.table origin (putEntry key (.tables (emptyTable .header) (last :: earlier)) entries))
    | some _ => .error (.taken (writtenKey key) (some home))
  | t => .error (.closed [key] t.kind)

/-- Opens what a header names, in brackets or in double brackets. -/
def openHeader (double : Bool) (path : List String) : Toml → Except Conflict Toml :=
  let home := path.dropLast
  let key := path.getLast?.getD ""
  descend .header (if double then openArrayTable home key else openTable home key) [] home

end Toml

end SessionGateway
