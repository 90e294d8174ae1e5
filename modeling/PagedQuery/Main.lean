/-
# The program

Reads the configuration file that the command line names, runs the command and
prints what it gives.  No database engine is linked in, so a command that gets as
far as opening its database fails there.
-/

import PagedQuery.CommandLine.Run

namespace PagedQuery
namespace CommandLine

/-- The text of a file, or why it cannot be read. -/
def readConfigFile (path : String) : IO (Except String String) := do
  try
    return .ok (← IO.FS.readFile path)
  catch
    | .noFileOrDirectory .. => return .error "No such file or directory (os error 2)"
    | e => return .error (toString e)

/-- The surroundings of a command with the files it reads and no database engine. -/
def surroundings (file : Except String String) : Surroundings Unit where
  fileText _ := file
  database _ := .unreachable "no database engine is available"
  world := ()

end CommandLine
end PagedQuery

open PagedQuery.CommandLine

/-- Reads the configuration file that the command names, if it names one, runs the command, and
shows what it printed and what ended it. -/
def main (args : List String) : IO UInt32 := do
  let path? := match Invocation.ofArguments args with
    | .ok invocation => invocation.command.configPath?
    | .error _ => none
  let file ← match path? with
    | some path => readConfigFile path
    | none => pure (.error "no file")
  let outcome := run (surroundings file) args
  IO.print outcome.printed
  match outcome.failure with
  | some text => IO.eprintln text
  | none => pure ()
  return UInt32.ofNat outcome.code
