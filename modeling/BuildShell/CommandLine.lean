import BuildShell.CommandLine.Request
import BuildShell.Prompt

namespace BuildShell.CommandLine

def usage : String :=
  "usage: sbtshell [-h] [--tokens] [--spans] [--check] [--repl] [-v] [--version]\n" ++
  "                [line]\n"

def help : String :=
  usage ++
  "\nParse sbt shell command lines into scoped keys\n" ++
  "\npositional arguments:\n" ++
  "  line           Shell line to parse (omit for a REPL)\n" ++
  "\noptions:\n" ++
  "  -h, --help     show this help message and exit\n" ++
  "  --tokens       Print the token stream instead of the tree\n" ++
  "  --spans        Print one line per node with its source span\n" ++
  "  --check        Exit with status 1 unless the line is a scoped key\n" ++
  "  --repl         Force REPL mode\n" ++
  "  -v, --verbose  Debug logging\n" ++
  "  --version      show program's version number and exit\n"

def version : String :=
  "sbtshell 0.1.0\n"

def misuse (m : Misuse) : String :=
  usage ++ "sbtshell: error: " ++ m.message ++ "\n"

def log (settings : Settings) (rs : List Record) : String :=
  if settings.verbose then
    .join (rs.map fun r =>
      "DEBUG sbtshell.parser: opaque line at C" ++ toString r.column ++ ": " ++ r.reason ++ "\n")
  else
    ""

-- How a run of the program ends. A session has no exit status of its own.
structure Result where
  status? : Option Nat
  output  : String := ""
  errors  : String := ""

def run (args : List String) (input : String) : Result :=
  match Request.ofArguments args with
  | .error m                   => { status? := some 2, errors := misuse m }
  | .ok .help                  => { status? := some 0, output := help }
  | .ok .version               => { status? := some 0, output := version }
  | .ok (.line settings text)  =>
    let ⟨(status, output), records⟩ := Report.run settings.flags text
    { status? := some status, output, errors := log settings records }
  | .ok (.repl settings)       =>
    let ⟨output, records⟩ := Prompt.session settings.flags (Text.lines input)
    { status? := none, output, errors := log settings records }

end BuildShell.CommandLine
