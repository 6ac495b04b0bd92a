import BuildShell.Report

namespace BuildShell.Prompt

open Report

def banner : String :=
  "sbtshell 0.1.0\nType 'exit' to quit.\n\n"

def prompt : String :=
  "sbt:> "

def isExit (line : String) : Bool :=
  Text.trim line ∈ ["exit", "quit"]

-- The answer to a line. A line that does not pass the check does not end the session.
def answer (flags : Flags) (line : String) : Logged String := do
  match ← render flags line with
  | .ok text => return text ++ "\n"
  | .error f => return "[Error] " ++ f.message ++ "\n"

def answers (flags : Flags) : List String → Logged String
  | []            => return prompt ++ "\n"
  | line :: lines => do
    if isExit line then
      return prompt
    else
      let text ← answer flags line
      let rest ← answers flags lines
      return prompt ++ text ++ rest

def session (flags : Flags) (lines : List String) : Logged String := do
  let text ← answers flags lines
  return banner ++ text

end BuildShell.Prompt
