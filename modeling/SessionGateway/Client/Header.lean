import SessionGateway.Text.Ascii

/-! Ordered header lists. Setting a header looks for the exact name; looking one up ignores the
case of ASCII letters. -/

namespace SessionGateway

structure HeaderList where
  entries : List (String × String)
  deriving DecidableEq, Repr

namespace HeaderList

def empty : HeaderList := ⟨[]⟩

/-- The value of the first entry with the name changes, or else an entry is added at the end. -/
def setEntry (name value : String) : List (String × String) → List (String × String)
  | [] => [(name, value)]
  | (n, v) :: rest => if n = name then (n, value) :: rest else (n, v) :: setEntry name value rest

def set (h : HeaderList) (name value : String) : HeaderList := ⟨setEntry name value h.entries⟩

/-- Sets a header that has a value. -/
def set? (h : HeaderList) (name : String) : Option String → HeaderList
  | none => h
  | some value => h.set name value

def ofPairs (pairs : List (String × String)) : HeaderList :=
  pairs.foldl (fun h p => h.set p.1 p.2) empty

def get? (h : HeaderList) (name : String) : Option String :=
  (h.entries.find? fun e => Text.sameName e.1 name).map (·.2)

def contains (h : HeaderList) (name : String) : Bool := (h.get? name).isSome

def size (h : HeaderList) : Nat := h.entries.length

def isEmpty (h : HeaderList) : Bool := h.entries.isEmpty

end HeaderList

end SessionGateway
