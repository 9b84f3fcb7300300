import Calculator.Evaluation
import Calculator.Session

namespace Calculator

/-- A command with its arguments. -/
inductive CommandLine where
  | eval (expression : Text) (json verbose : Bool)
  | call (function : NamedFunction) (number : Text)
  | repl
deriving DecidableEq, Repr

namespace CommandLine

/-- The flags of `eval`. -/
inductive Flag where
  | json
  | verbose
deriving DecidableEq, Repr

/-- The flags that an option sets; several short ones may share a dash. -/
def Flag.ofText? (t : Text) : Option (List Flag) :=
  if t = "--json".toList then some [.json]
  else if t = "--verbose".toList then some [.verbose]
  else match t with
    | '-' :: letters =>
      if letters.all (· = 'v') then some (List.replicate letters.length .verbose) else none
    | _ => none

/-- An argument that starts with a dash is an option, except for a lone dash. -/
def isOption : Text → Bool
  | '-' :: _ :: _ => true
  | _ => false

/-- Separates the options, read by `flags?`, from the other arguments; `none` if one is unknown.
What follows the argument `--` is taken as it is. -/
def split? {φ : Type} (flags? : Text → Option (List φ)) :
    List Text → Option (List φ × List Text)
  | [] => some ([], [])
  | argument :: arguments =>
    if argument = "--".toList then some ([], arguments)
    else if isOption argument then do
      let flags ← flags? argument
      let (others, plain) ← split? flags? arguments
      return (flags ++ others, plain)
    else do
      let (flags, plain) ← split? flags? arguments
      return (flags, argument :: plain)

/-- The plain arguments of a command without options. -/
def plain? (arguments : List Text) : Option (List Text) :=
  (split? (φ := Empty) (fun _ => none) arguments).map (·.2)

/-- The command with a name, if it takes these arguments: `eval` an expression, a function a number,
and `repl` nothing. -/
def named? (name : Text) (arguments : List Text) : Option CommandLine :=
  if name = "eval".toList then
    match split? Flag.ofText? arguments with
    | some (flags, [expression]) =>
      some (.eval expression (Flag.json ∈ flags) (Flag.verbose ∈ flags))
    | _ => none
  else if name = "repl".toList then
    match plain? arguments with
    | some [] => some .repl
    | _ => none
  else do
    let f ← NamedFunction.ofName? name
    match plain? arguments with
    | some [number] => some (.call f number)
    | _ => none

/-- The command that the arguments give, if they are well formed; `--` may stand before the name.
The arguments are taken to reach the command as they were typed, whatever characters they hold.
Options that ask for help or for the completion of a command line give no command. -/
def ofArguments? : List Text → Option CommandLine
  | [] => none
  | name :: arguments =>
    if name = "--".toList then
      match arguments with
      | [] => none
      | name :: arguments => named? name arguments
    else if isOption name then none
    else named? name arguments

/-! ## Running a command -/

/-- What a command leaves behind. -/
structure Effect where
  exitCode : Nat := 0
  stdout : String := ""
  stderr : String := ""
deriving DecidableEq, Repr

/-- The line that shows the expression as it is read. -/
def inputLine (expression : Text) : String :=
  Terminal.line (String.ofList (Text.Markup.display
    ("  [dim]Input: ".toList ++ Text.Markup.escape (Text.strip expression) ++ "[/dim]".toList)))

/-- The line that tells an error apart from the others. -/
def errorLine (error : ParseError) : String :=
  Terminal.line ("  " ++ error.kind.word ++ ": " ++ error.message)

/-- The answer or the record goes to the standard output, everything else to the standard error. -/
def runEval (settings : Settings) (expression : Text) (json verbose : Bool) : Effect :=
  let evaluation := Evaluation.ofText expression
  let before := if verbose then inputLine expression else ""
  let record := Terminal.line (String.ofList (evaluation.toJson.write .unicode))
  match evaluation.outcome with
  | .ok x =>
    { stdout := if json then record else Terminal.line (answer settings x)
      stderr := before }
  | .error error =>
    { exitCode := 1
      stdout := if json then record else ""
      stderr :=
        before ++ (if json then "" else Terminal.line error.advice) ++
          if verbose then errorLine error else "" }

/-- The value goes to the standard output, what is wrong with the number to the standard error. -/
def runCall (settings : Settings) (f : NamedFunction) (number : Text) : Effect :=
  match f.call number with
  | .ok x => { stdout := Terminal.line (answer settings x) }
  | .error error => { exitCode := 1, stderr := Terminal.line error.advice }

/-- The lines of a text; the last one counts only if something stands behind the last line feed. -/
def lines : Text → List Text
  | [] => []
  | '\n' :: t => [] :: lines t
  | c :: t =>
    match lines t with
    | [] => [[c]]
    | line :: rest => (c :: line) :: rest

/-- Holds a session over the lines of the input. -/
def runRepl (settings : Settings) (stdin : Text) : Effect :=
  { stdout := Session.shown (Session.run settings (lines stdin)).1 }

/-- What a command leaves behind; only `repl` reads the standard input. -/
def run (settings : Settings) (stdin : Text) : CommandLine → Effect
  | .eval expression json verbose => runEval settings expression json verbose
  | .call f number => runCall settings f number
  | .repl => runRepl settings stdin

end CommandLine

end Calculator
