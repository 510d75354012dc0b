import EventFilter.Command

/-!
# The program

Reads what the command may need, and prints its report.
-/

namespace EventFilter.Command

/-- The bytes of a file, `none` if it cannot be read. -/
def fileBytes (path : String) : IO (Option ByteArray) := do
  try
    return some (← IO.FS.readBinFile path)
  catch _ =>
    return none

/-- The bytes of the standard input. -/
partial def stdinBytes : IO ByteArray := do
  let stdin ← IO.getStdin
  let rec go (bytes : ByteArray) : IO ByteArray := do
    let more ← stdin.read 65536
    if more.isEmpty then return bytes else go (bytes ++ more)
  go .empty

/-- What the command may read when it is given some arguments. -/
def inputsFor (args : List String) : IO Inputs := do
  match Request.ofArguments args with
  | .ok (.evaluate given) =>
    match given.event with
    | some path =>
      let bytes ← fileBytes path
      return { stdin := .empty, file := fun _ => bytes }
    | none => return { stdin := ← stdinBytes, file := fun _ => none }
  | _ => return { stdin := .empty, file := fun _ => none }

end EventFilter.Command

open EventFilter

/-- The program. -/
def main (args : List String) : IO UInt32 := do
  let inputs ← Command.inputsFor args
  let report := Command.run args inputs
  IO.print report.standardOutput
  for line in report.log do
    IO.eprintln s!"[{line.level.name} cesql] {line.message}"
  match report.ending with
  | .done => pure ()
  | .fatal message => IO.eprintln s!"Error: {message}"
  | .misused e => IO.eprintln s!"error: {e.message}"
  return report.ending.exitCode.toUInt32
