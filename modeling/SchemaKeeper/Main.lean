import SchemaKeeper.Command
import SchemaKeeper.MariaDb.Session

/-!
Contract: the command line.

Reads arguments, the environment and the schema file, runs the command and prints
its report. No network driver is linked, so every database is out of reach here;
a program that has one provides a `MariaDb.Server`.
-/

namespace SchemaKeeper.CommandLine

/-- What the arguments ask for. -/
structure Arguments where
  command : Option Command := none
  schema : Option String := none
  database : Option String := none

/-- Reads arguments on top of those read before. -/
def Arguments.read? (arguments : Arguments) : List String → Option Arguments
  | [] => some arguments
  | "--schema" :: path :: rest | "-s" :: path :: rest =>
      read? { arguments with schema := some path } rest
  | "--database" :: url :: rest | "-d" :: url :: rest =>
      read? { arguments with database := some url } rest
  | name :: rest =>
      match arguments.command, Command.ofName? name with
      | none, some command => read? { arguments with command := some command } rest
      | _, _ => none

def usage : String :=
  "usage: [--database URL] (check | plan | sync) --schema FILE"

def readFile (path : String) : IO (Except UnreadableFile String) := do
  try
    return .ok (← IO.FS.readFile path)
  catch
    | .noFileOrDirectory .. => return .error .notFound
    | other => return .error (.other (toString other))

end SchemaKeeper.CommandLine

open SchemaKeeper

def main (arguments : List String) : IO UInt32 := do
  match CommandLine.Arguments.read? {} arguments with
  | some { command := some command, schema := some path, database } => do
      let file ← CommandLine.readFile path
      let url := database <|> (← IO.getEnv "DATABASE_URL")
      let connection := url.map fun _ => MariaDb.Session.closed MariaDb.ScriptedServer.outOfReach
      let (report, _) := command.run path file connection
      IO.print report.outputText
      match report.errorText? with
      | some text => IO.eprintln text
      | none => pure ()
      return .ofNat report.exitCode
  | _ => do
      IO.eprintln CommandLine.usage
      return 2
