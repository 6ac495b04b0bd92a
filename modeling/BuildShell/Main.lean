import BuildShell.CommandLine

open BuildShell

partial def converse (settings : CommandLine.Settings) (input output errors : IO.FS.Stream) :
    IO Unit := do
  output.putStr Prompt.prompt
  output.flush
  let line ← input.getLine
  if line.isEmpty then
    output.putStr "\n"
  else
    let line := (Text.lines line).headD ""
    unless Prompt.isExit line do
      let ⟨text, records⟩ := Prompt.answer settings.flags line
      errors.putStr (CommandLine.log settings records)
      output.putStr text
      converse settings input output errors

def main (args : List String) : IO UInt32 := do
  let output ← IO.getStdout
  let errors ← IO.getStderr
  match CommandLine.Request.ofArguments args with
  | .ok (.repl settings) =>
    output.putStr Prompt.banner
    converse settings (← IO.getStdin) output errors
    return 0
  | _ =>
    let result := CommandLine.run args ""
    output.putStr result.output
    errors.putStr result.errors
    return (result.status?.getD 0).toUInt32
