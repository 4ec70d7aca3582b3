import SessionGateway.Probe.Grammar
import SessionGateway.Terminal.Styled

/-! Help texts: what a command is for, how it is used, and its parts in columns. -/

namespace SessionGateway.Probe

open Terminal (Styled)

def Verb.about : Verb → String
  | call .health => "Check gateway health"
  | call .capabilities => "List gateway capabilities"
  | call .session => "Create a session for an end user"
  | call .refresh => "Exchange a refresh token for new tokens"
  | call .logout => "Revoke an access token"
  | help => "Print this message or the help of the given subcommand(s)"

/-- What an option is for; `baseUrl` is the value of the variable that stands in for it. -/
def Flag.about (baseUrl : Option String) : Flag → String
  | config => "Config file (default: ./caas.toml if present)"
  | .baseUrl =>
    "Gateway base URL, overriding the config file [env: " ++ baseUrlVariable ++ "=" ++
      baseUrl.getD "" ++ "]"
  | project => "Default project id, overriding the config file"
  | logLevel => "Log level (trace, debug, info, warn, error)"
  | jsonLogs => "Output logs as JSON instead of human-readable"
  | sessionProject => "Project for this session only"
  | userData => "JSON object forwarded as `user_data`"
  | help => "Print help"
  | version => "Print version"

namespace Scope

def about : Scope → String
  | program => programAbout
  | command v => v.about

/-- The words of a call, and what follows them. -/
def usage : Scope → Styled
  | program => [(.literal, programName), (.plain, " [OPTIONS] <COMMAND>")]
  | command .help => [(.literal, programName ++ " help"), (.plain, " [COMMAND]...")]
  | command v =>
    [(.literal, programName ++ " " ++ v.name),
      (.plain, " [OPTIONS]" ++ v.operand?.elim "" fun operand => " <" ++ operand ++ ">")]

end Scope

/-- Names with what is said of each. -/
structure Section where
  title : String
  rows : List (Styled × String)

namespace Section

/-- The second column begins two places after the longest name, and so does every line in it. -/
def text (s : Section) : Styled :=
  let width := s.rows.foldl (fun w r => max w r.1.length) 0
  let spaces (n : Nat) := String.ofList (List.replicate n ' ')
  let row (r : Styled × String) : Styled :=
    (.plain, "  ") :: r.1 ++
      [(.plain, spaces (width - r.1.length + 2) ++
        ("\n" ++ spaces (width + 4)).intercalate (r.2.splitOn "\n") ++ "\n")]
  [(.plain, "\n"), (.title, s.title ++ ":"), (.plain, "\n")] ++ s.rows.flatMap row

end Section

/-- Options without a letter leave its place free. -/
def Flag.column (f : Flag) : Styled :=
  let front : Styled := match f.letter? with
    | some c => [(.literal, String.ofList ['-', c]), (.plain, ", ")]
    | none => [(.plain, "    ")]
  front ++ [(.literal, "--" ++ f.name), (.plain, f.valueLabel)]

def Scope.sections (baseUrl : Option String) (s : Scope) : List Section :=
  let options := ⟨"Options", s.flags.map fun f => (f.column, f.about baseUrl)⟩
  match s with
  | program => [⟨"Commands", Verb.all.map fun v => ([(.literal, v.name)], v.about)⟩, options]
  | command .help =>
    [⟨"Arguments", [([(.plain, "[COMMAND]...")], "Print help for the subcommand(s)")]⟩]
  | command v =>
    match v.operand? with
    | some operand => [⟨"Arguments", [([(.plain, "<" ++ operand ++ ">")], "")]⟩, options]
    | none => [options]

def Scope.help (baseUrl : Option String) (s : Scope) : Styled :=
  [(.plain, s.about ++ "\n\n"), (.title, "Usage:"), (.plain, " ")] ++ s.usage ++
    (.plain, "\n") :: (s.sections baseUrl).flatMap Section.text

end SessionGateway.Probe
