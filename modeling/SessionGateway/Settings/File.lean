import SessionGateway.Json.Reader
import SessionGateway.Settings.Conversion
import SessionGateway.Text.Ascii
import SessionGateway.Toml.Reader

/-! The configuration file: where it is looked for, and what it says. -/

namespace SessionGateway

/-- The files of a directory, and the directory's own path. Names are relative to it unless they
start with a slash. -/
structure Directory where
  path : String
  read? : String → Option String

namespace ConfigFile

inductive Format where
  | toml
  | json
  deriving DecidableEq, Repr

/-- The extensions of the formats that are read here. YAML, INI, RON and JSON5 are registered as
well, and left out: their files are not found, or of no known format. Which format comes first is
not fixed where a directory has a file in each of them. -/
def formats : List (String × Format) := [("toml", .toml), ("json", .json)]

def isAbsolute (name : String) : Bool := name.toList.head? = some '/'

/-- The parts of a path that say something. -/
def parts (name : String) : List (List Char) :=
  (Text.splitAtChar (· == '/') name.toList).filter fun part => part ≠ [] ∧ part ≠ ['.']

/-- A path without empty parts and parts that stay in place. -/
def tidy (name : String) : String :=
  (if isAbsolute name then "/" else "") ++
    "/".intercalate ((parts name).map String.ofList)

def underDirectory (directory name : String) : String :=
  if isAbsolute name ∨ directory.isEmpty then name else directory ++ "/" ++ name

/-- What follows the last point of a file's name, unless nothing stands before it. -/
def extension (name : String) : String :=
  let file := ((parts name).getLast?.getD []).reverse
  let back := file.takeWhile (· != '.')
  match file.dropWhile (· != '.') with
  | _ :: _ :: _ => String.ofList back.reverse
  | _ => ""

inductive Lookup where
  | found (name : String) (format : Format) (text : String)
  | unknownFormat
  | missing

/-- A name with an end that only a directory's name can have: a slash, or a part that stays in
place or goes up. -/
def namesDirectory (name : String) : Bool :=
  match (Text.splitAtChar (· == '/') name.toList).getLast? with
  | none => true
  | some part => part = [] || part = ['.'] || part = ['.', '.']

/-- The names that go on with a known extension. There are none where the name has no last part, or
goes up with it. -/
def longerNames (name : String) : List (String × Format) :=
  match (parts name).getLast? with
  | none => []
  | some last =>
    if last = ['.', '.'] then [] else formats.map fun f => (tidy name ++ "." ++ f.1, f.2)

/-- All the names at which a file is looked for. -/
def candidates (name : String) : List String :=
  (if namesDirectory name then [] else [tidy name]) ++ (longerNames name).map Prod.fst

/-- A file of that very name, or else one whose name goes on with a known extension. -/
def find (directory : Directory) (name : String) : Lookup :=
  match if namesDirectory name then none else directory.read? (tidy name) with
  | some text =>
    match formats.lookup (extension name) with
    | some format => .found (tidy name) format text
    | none => .unknownFormat
  | none =>
    let found := (longerNames name).filterMap fun c =>
      (directory.read? c.1).map fun text => Lookup.found c.1 c.2 text
    found.head?.getD .missing

def notATable (file : String) (s : Setting) : SettingsFault :=
  .unparsable file (SettingsFault.wrongType (some file) s.found "a map" none).message

/-- What a file says, as the entries of a table. -/
def parse (file : String) (format : Format) (text : String) :
    Except SettingsFault (List (String × Setting)) :=
  match format with
  | .toml =>
    match Toml.ofText text with
    | .ok t => .ok (Setting.ofToml (some file) t).entries
    | .error fault => .error (.unparsable file (fault.message text))
  | .json =>
    match Json.ofText text with
    | .error e => .error (.unparsable file e.message)
    | .ok v =>
      match Setting.ofJson (some file) v with
      | .table _ entries => .ok entries
      | s => .error (notATable file s)

/-- The name without an extension that is looked for when none is given. -/
def defaultName : String := "caas"

/-- The entries of the configuration file. A file that is asked for by name has to be there. -/
def layer (directory : Directory) (name : Option String) :
    Except SettingsFault (List (String × Setting)) :=
  match find directory (name.getD defaultName), name with
  | .found file format text, _ => parse file format text
  | .unknownFormat, some name =>
    .error (.unreadable ("configuration file \"" ++ underDirectory directory.path name ++
      "\" is not of a registered file format"))
  | .missing, some name =>
    .error (.unreadable ("configuration file \"" ++ name ++ "\" not found"))
  | _, none => .ok []

end ConfigFile

end SessionGateway
