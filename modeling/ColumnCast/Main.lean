import ColumnCast.Cli.Program

/-!
# `ColumnCast.Main`: the program

Connects the commands to the files, the standard streams and the
environment of a process.
-/

set_option autoImplicit false

namespace ColumnCast.Cli

/-- The fault behind a failed read. -/
def FileFault.ofError : IO.Error → FileFault
  | .noFileOrDirectory .. => .notFound
  | .inappropriateType .. => .isDirectory
  | e => .other (toString e)

/-- Files and standard input of the process. -/
def processHost : Host IO where
  read path := do
    try return .ok (← IO.FS.readBinFile path).toList
    catch e => return .error (.ofError e)
  input := do return (← (← IO.getStdin).readBinToEnd).toList

end ColumnCast.Cli

/-- Runs the program. -/
def main (arguments : List String) : IO UInt32 := do
  let outcome ← ColumnCast.Cli.run ColumnCast.Cli.processHost (← IO.getEnv "RUST_LOG") arguments
  IO.eprint outcome.stderr
  IO.print outcome.stdout
  return outcome.code.toUInt32
