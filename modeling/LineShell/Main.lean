import LineShell.CommandLine
import LineShell.Machine.Basic

/-!
# The executable

Runs the program on a fresh machine: the standard input is read as a whole, what the program writes goes to
the standard streams, and the terminal says whether there are colours.
-/

open LineShell Machine

/-- Reads a stream to its end. -/
def readAll (stream : IO.FS.Stream) : IO Bytes := do
  let mut content := ByteArray.empty
  let mut more := true
  while more do
    let part ← stream.read 4096
    if part.isEmpty then more := false else content := content ++ part
  return content.toList

def main (args : List String) : IO UInt32 := do
  let stdout ← IO.getStdout
  let stderr ← IO.getStderr
  let env : Environment ← Environment.colorVariables.filterMapM fun name =>
    return (← IO.getEnv name).map (name, ·)
  let surroundings : Surroundings Machine :=
    { input := .reader (.ofPipe (← readAll (← IO.getStdin)))
      outIsTerminal := ← stdout.isTty
      errIsTerminal := ← stderr.isTty
      showsColor := env.supportsColor
      world := Machine.empty }
  let report := surroundings.run args
  for (stream, bytes) in report.output do
    let target := match stream with
      | .out => stdout
      | .err => stderr
    target.write ⟨bytes.toArray⟩
    target.flush
  return report.code
