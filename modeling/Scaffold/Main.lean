import Scaffold.CommandLine.Run
import Scaffold.Interpreter.Remote
import Scaffold.Interpreter.Template
import Scaffold.Settings.Basic
/-!
# Main — the command line

Reads the settings from the environment and from the file `.env`, runs one session and writes its files.  What is
printed goes to the standard output, what is logged to the standard error.
-/
namespace Scaffold
namespace Main

def usage : String :=
  "usage: scaffold [-h] [--entity-name ENTITY_NAME] [--operations OPERATIONS] [--paginate] [--out OUT] prompt"

/-- The settings of the environment, in capitals or in small letters. -/
def environment : IO (Entries (List Char) (List Char)) := do
  let mut found := []
  for name in Settings.names do
    for spelling in [name, name.toUpper] do
      match ← IO.getEnv spelling with
      | some value => found := found ++ [(spelling.toList, value.toList)]
      | none => pure ()
  return found

def settingsFile : IO (List Char) := do
  try return (← IO.FS.readFile ".env").toList
  catch _ => return []

/-- The interpreter that the settings ask for.  There is no way to a service from here, so it is out of reach. -/
def interpreter (s : Settings) : Interpreter :=
  match s.service? with
  | some url => Remote.interpreter url (fun _ => .failed "no connection")
  | none => Template.interpreter

def write (file : String × String) : IO Unit := do
  let directory := Path.directory file.1
  if !directory.isEmpty then IO.FS.createDirAll directory
  IO.FS.writeFile file.1 file.2

def finish (severity : Nat) (r : CommandLine.Result) : IO UInt32 := do
  for line in Log.shown severity r.log do IO.eprintln line.text
  for file in r.disk.files (fun _ => true) do write file
  IO.print r.text
  match r.ending with
  | .ok _ => pure ()
  | .error e => IO.eprintln e.message
  return r.status.toUInt32

def run (s : Settings) (arguments : List String) : IO UInt32 :=
  match Log.threshold s.logLevel with
  | .error e => do
    IO.eprintln e.message
    return 1
  | .ok severity => finish severity ((CommandLine.run arguments (interpreter s) (.standard s.threshold)).onDisk {})

end Main
end Scaffold

open Scaffold in
def main (arguments : List String) : IO UInt32 := do
  match CommandLine.parse arguments with
  | .error .help =>
    IO.println Main.usage
    return 0
  | .error .usage =>
    IO.eprintln Main.usage
    return 2
  | .ok _ =>
    match Settings.load [] (← Main.environment) (← Main.settingsFile) with
    | .error e =>
      IO.eprintln e.message
      return 1
    | .ok settings => Main.run settings arguments
