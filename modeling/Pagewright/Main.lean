import Pagewright.Command.Outcome
import Pagewright.Text.KnownObject

/-!
# The command line

This file does what the outcome of a command says: it looks up what the paths of the command lead
to, prints, and writes the archive next to its place before it moves it there.
-/

namespace Pagewright

/-- What a path leads to on this machine. Opening a folder as a file fails with code 21, and a name
that is too long with code 36. -/
def fileState (path : Path) : IO FileState := do
  try
    return .bytes (← IO.FS.readBinFile path.text).toList
  catch
    | .noFileOrDirectory .. => return .missing
    | .inappropriateType _ code _ => return if code = 21 then .folder else .missing
    | .invalidArgument _ code _ => return if code = 36 then .longName else .missing
    | _ => return .folder

/-- The options that the environment gives. -/
def environment : IO (List (String × String)) :=
  ["document", "target", "output-dir", "config", "page", "verbose"].filterMapM fun option => do
    let name := Arguments.environmentName option
    return (← IO.getEnv name).map fun value => (name, value)

/-- Writes the bytes of an archive to their place. -/
def writeBytes (destination : Path) (bytes : List UInt8) : IO Unit := do
  let unfinished := destination.parent.within ⟨.here, ["." ++ destination.name ++ ".part"]⟩
  IO.FS.createDirAll destination.parent.text
  try
    IO.FS.writeBinFile unfinished.text ⟨bytes.toArray⟩
    IO.FS.rename unfinished.text destination.text
  catch e =>
    try IO.FS.removeFile unfinished.text catch _ => pure ()
    throw e

/-- Ends with a report. -/
def fail (message : String) : IO UInt32 := do
  IO.eprintln message
  return 1

/-- Runs a command on this machine. -/
def execute (command : Command) : IO UInt32 := do
  let states ← command.inputs.mapM fun path => return (path, ← fileState path)
  let outcome := command.outcome .known fun path => (states.lookup path).getD .missing
  IO.print outcome.output
  match outcome.ending with
  | .status code => return code.toUInt32
  | .failed fault => fail fault.message
  | .write destination archive =>
    try
      writeBytes destination (Zip.encode archive)
    catch e => return ← fail (WriteFault.unwritable.message destination ++ ": " ++ toString e)
    let here := Path.ofText (toString (← IO.currentDir))
    IO.print (writtenLine destination here)
    return 0

end Pagewright

/-- Reads the command line and runs its command. -/
def main (arguments : List String) : IO UInt32 := do
  match Pagewright.Command.ofArguments (← Pagewright.environment) arguments with
  | .ok command => Pagewright.execute command
  | .error fault =>
    IO.eprintln fault.message
    return 2
