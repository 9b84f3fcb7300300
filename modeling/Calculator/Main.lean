import Calculator.CommandLine

namespace Calculator.Program

/-- Shows an event, before anything is read. -/
def put (stdout : IO.FS.Stream) (event : Session.Event) : IO Unit := do
  stdout.putStr event.shown
  stdout.flush

/-- The next line, or nothing at the end of the input. -/
def read (stdin : IO.FS.Stream) : IO (Option Text) := do
  return (CommandLine.lines (← stdin.getLine).toList).head?

/-- Takes turns until the session is over, as `Session.replies` does. -/
partial def converse (settings : Settings) (stdin stdout : IO.FS.Stream) : IO Unit := do
  unless ← Session.takeTurn settings (put stdout) (read stdin) do
    converse settings stdin stdout

/-- The settings that the two variables of the environment give. -/
def readSettings : IO Settings := do
  let prompt ← IO.getEnv "MADCALC_PROMPT"
  let plain ← IO.getEnv "MADCALC_PLAIN"
  return .ofEnvironment fun name =>
    if name = "MADCALC_PROMPT" then prompt else if name = "MADCALC_PLAIN" then plain else none

/-- Holds a session over the standard input, answering each line as soon as it is typed. -/
def holdSession (settings : Settings) : IO UInt32 := do
  let stdout ← IO.getStdout
  Session.opening.forM (put stdout)
  converse settings (← IO.getStdin) stdout
  return 0

/-- Writes what a command leaves behind. -/
def perform (settings : Settings) (command : CommandLine) : IO UInt32 := do
  let effect := command.run settings []
  (← IO.getStdout).putStr effect.stdout
  (← IO.getStderr).putStr effect.stderr
  return effect.exitCode.toUInt32

end Calculator.Program

def main (arguments : List String) : IO UInt32 := do
  match Calculator.CommandLine.ofArguments? (arguments.map String.toList) with
  | none =>
    (← IO.getStderr).putStr "Usage: COMMAND [OPTIONS] [ARGUMENT]\n"
    return 2
  | some .repl => Calculator.Program.holdSession (← Calculator.Program.readSettings)
  | some command => Calculator.Program.perform (← Calculator.Program.readSettings) command
