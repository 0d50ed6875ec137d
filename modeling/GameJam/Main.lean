import GameJam.Program

/-!
# The command line program

Reads the files that a command line names, and prints the answer.
-/

set_option autoImplicit false

namespace GameJam

/-- Why a file could not be read.  A file inside of a file fails when it is opened, and the error
then has its name; a directory fails only when it is read. -/
def fileErrorOf : IO.Error → FileError
  | .noFileOrDirectory .. => .notFound
  | .inappropriateType (some _) .. => .notADirectory
  | .inappropriateType none .. => .isADirectory
  | .invalidArgument _ 22 _ => .impossibleName
  | .invalidArgument .. => .nameTooLong
  | _ => .denied

/-- What reading some paths gives; nothing else is found. -/
def readFiles (paths : List String) : IO Files := do
  let found ← paths.mapM fun (path : String) => do
    let bytes : Except FileError (List UInt8) ←
      try pure (.ok (← IO.FS.readBinFile path).toList)
      catch error => pure (.error (fileErrorOf error))
    pure (path, bytes)
  return fun path => (found.lookup path).getD (.error .notFound)

/-- The files that a command line names: that of the configuration, and that of the dataset. -/
def namedFiles (invocation : CommandLine.Invocation) (directory : String) : IO Files := do
  let configPath := invocation.configPath directory
  let files ← readFiles [configPath]
  match Config.discover files invocation.config directory with
  | .ok config => readFiles (configPath :: (invocation.dataPath? config).toList)
  | .error _ => return files

end GameJam

open GameJam in
/-- Answers a command line from the files that it names. -/
def main (args : List String) : IO UInt32 := do
  let directory := (← IO.currentDir).toString
  let data ← IO.getEnv "JAMDEX_DATA"
  let stdout ← IO.getStdout
  let files ← match CommandLine.Invocation.ofArgs args data with
    | .ok invocation => namedFiles invocation directory
    | .error _ => readFiles []
  let outcome := Outcome.of (run files directory args data (← stdout.isTty))
  stdout.putStr outcome.output
  (← IO.getStderr).putStr outcome.diagnostic
  return outcome.code
