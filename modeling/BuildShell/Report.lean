import BuildShell.Outline
import BuildShell.Reading

namespace BuildShell.Report

open Text

-- Shows the tokens of the line, or the places of its nodes, or else an outline of it. The check
-- takes only lines with a scoped key, but tokens are shown for every line.
structure Flags where
  tokens : Bool := false
  spans  : Bool := false
  check  : Bool := false

section

variable (printable : Char → Bool)

def spanLine (s : NodeSpan) : String :=
  padRight 10 s.kind ++ " " ++ padLeft 3 (toString s.span.start) ++ ".." ++
  padRight 3 (toString s.span.stop) ++ " " ++ quoted s.text printable

def showCommand (flags : Flags) (c : Command) : String :=
  if flags.spans then
    "\n".intercalate (c.spans.map (spanLine printable))
  else
    c.outline "  " printable

end

def render (flags : Flags) (line : String) (printable : Char → Bool := isPrintable) :
    Logged (Except Fallback String) := do
  if flags.tokens then
    return .ok ("\n".intercalate ((tokenize line).map (·.render printable)))
  else
    let r ← (Reading.ofText line).logged
    let command := if flags.check then r.check else .ok r.command
    return command.map (showCommand printable flags)

def run (flags : Flags) (line : String) : Logged (Nat × String) := do
  match ← render flags line with
  | .ok text => return (0, text ++ "\n")
  | .error f => return (1, f.message ++ "\n")

end BuildShell.Report
