import FlowSelect.Command.Run
/-! The command-line program: reads the settings file a run asks for, and writes what the run
wrote to standard output and standard error, exiting with its status. -/
namespace FlowSelect.Program

/-- A path made absolute: `~` stands for the home directory, and a relative path is taken from
the working directory. -/
def absolutePath (home cwd p : String) : String :=
  if p == "~" then home
  else if p.startsWith "~/" then home ++ (p.drop 1).toString
  else if p.startsWith "/" then p
  else cwd ++ "/" ++ p

/-- The settings file read when none is named. -/
def defaultSettingsPath (home : String) : String := home ++ "/.config/netflow-filters/config.toml"

/-- The text of a file, when it can be read. -/
def readIfPresent (path : String) : IO (Option String) := do
  try
    let text ← IO.FS.readFile path
    pure (some text)
  catch _ =>
    pure none

/-- Writes an outcome and gives its exit status. -/
def emit (o : Console.Outcome) : IO UInt32 := do
  let out ← IO.getStdout
  out.putStr o.out
  out.flush
  let err ← IO.getStderr
  err.putStr o.err
  err.flush
  pure o.status.toUInt32

end FlowSelect.Program

open FlowSelect in
/-- Runs the program on its command line. -/
def main (args : List String) : IO UInt32 := do
  match Command.run Command.programName args with
  | .done o => Program.emit o
  | .needsSettings given resume =>
    let home := (← IO.getEnv "HOME").getD "~"
    let cwd := toString (← IO.currentDir)
    let path := Program.absolutePath home cwd (given.getD (Program.defaultSettingsPath home))
    let text ← Program.readIfPresent path
    Program.emit (resume (Settings.load path text))
