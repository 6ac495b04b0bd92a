import BuildShell.CommandLine.Argument
import BuildShell.Report

namespace BuildShell.CommandLine

structure Settings where
  flags   : Report.Flags := {}
  repl    : Bool := false
  verbose : Bool := false

inductive Request
  | help
  | version
  | line (settings : Settings) (text : String)
  | repl (settings : Settings)

structure Progress where
  settings : Settings      := {}
  operand? : Option String := none
  extras   : List String   := []

def Progress.finish (p : Progress) : Except Misuse Request :=
  match p.extras, p.operand? with
  | [], some text => .ok (if p.settings.repl then .repl p.settings else .line p.settings text)
  | [], none      => .ok (.repl p.settings)
  | extras, _     => .error (.unrecognized extras)

def Progress.turn (p : Progress) : Switch → Except Request Progress
  | .help    => .error .help
  | .version => .error .version
  | .tokens  => .ok { p with settings.flags.tokens := true }
  | .spans   => .ok { p with settings.flags.spans := true }
  | .check   => .ok { p with settings.flags.check := true }
  | .repl    => .ok { p with settings.repl := true }
  | .verbose => .ok { p with settings.verbose := true }

-- Goes through the arguments from left to right. The first operand is the line. A mark counts as
-- used up only directly before it or directly after it.
def follow (p : Progress) : List Argument → Except Misuse Request
  | [] => p.finish
  | .operand text :: args =>
    match p.operand?, args with
    | some _, args        => follow { p with extras := p.extras ++ [text] } args
    | none, .mark :: args => follow { p with operand? := some text } args
    | none, args          => follow { p with operand? := some text } args
  | .mark :: args =>
    match p.operand? with
    | some _ => follow { p with extras := p.extras ++ ["--"] } args
    | none   => follow p args
  | .unknown text :: args => follow { p with extras := p.extras ++ [text] } args
  | arg :: args => do
    match (← arg.switches).foldlM Progress.turn p with
    | .error request => return request
    | .ok p          => follow p args

def Request.ofArguments (args : List String) : Except Misuse Request := do
  follow {} (← Argument.ofTexts args)

end BuildShell.CommandLine
