import QueryCriteria.Command.Arguments

/-!
The command line: reads the files that the command names, prints what it yields, and tells misuse
(exit code 2) from failure (1).
-/

namespace QueryCriteria

/-- The contents of a file, none if it cannot be read. -/
def readFile? (path : String) : IO (Option ByteArray) := do
  try
    pure (some (← IO.FS.readBinFile path))
  catch _ => pure none

/-- The files that a command names. -/
def Command.paths : Command → List String
  | translate criteria settings _ => criteria :: settings.toList
  | render criteria settings _ _ _ => criteria :: settings.toList

end QueryCriteria

open QueryCriteria in
def main (args : List String) : IO UInt32 := do
  match Command.ofArguments? args with
  | none =>
    IO.eprintln "usage: criteria-sql translate|render --criteria FILE [--config FILE] [--json]"
    pure 2
  | some command =>
    let contents ← command.paths.mapM fun path => do pure (path, ← readFile? path)
    match command.run fun path => (contents.lookup path).join with
    | .ok text =>
      IO.print text
      pure 0
    | .error e =>
      IO.eprintln ("Error: " ++ e.message)
      pure 1
