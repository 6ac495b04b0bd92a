import BuildShell.Proofs.Report
import BuildShell.Prompt
import Mathlib.Data.List.Forall2

namespace BuildShell.Prompt

open Report

variable {flags : Flags} {line : String}

def answered (lines : List String) : List String :=
  lines.takeWhile (!isExit ·)

def closing (lines : List String) : String :=
  if lines.any isExit then prompt else prompt ++ "\n"

end BuildShell.Prompt
