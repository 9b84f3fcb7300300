import Calculator.ErrorKind
import Calculator.Number.Reader
import Calculator.Text.Quoted

namespace Calculator

/-- What is wrong with the argument of a function. -/
inductive ArgumentError where
  | notANumber (function : String) (argument : Text)
  | negativeRadicand (argument : Text)
deriving DecidableEq, Repr

/-- A function of one number that is called by its name. -/
inductive NamedFunction where
  | sqrt
  | pow2
  | cube
deriving DecidableEq, Repr

namespace NamedFunction

def name : NamedFunction → String
  | sqrt => "sqrt"
  | pow2 => "pow2"
  | cube => "cube"

/-- The functions in the order in which their names are looked for. -/
def all : List NamedFunction := [sqrt, pow2, cube]

def ofName? (t : Text) : Option NamedFunction :=
  all.find? fun f => f.name.toList == t

end NamedFunction

namespace ArgumentError

def kind : ArgumentError → ErrorKind
  | notANumber .. => .notANumber
  | negativeRadicand .. => .negativeRadicand

def function : ArgumentError → String
  | notANumber function _ => function
  | negativeRadicand _ => NamedFunction.sqrt.name

/-- The argument as it was typed. -/
def argument : ArgumentError → Text
  | notANumber _ argument => argument
  | negativeRadicand argument => argument

def message : ArgumentError → String
  | notANumber function argument =>
    function ++ " needs a number, got " ++ String.ofList (Text.quoted argument)
  | negativeRadicand _ => "Cannot calculate square root of a negative number"

end ArgumentError

/-- The number that is typed as the argument of a function, which may have blanks up to the space
around it. -/
def readArgument (function : String) (t : Text) : Except ArgumentError Float :=
  match Numeral.readArgument? (Text.trim Text.isLow t) with
  | some n => .ok n.toFloat
  | none => .error (.notANumber function t)

namespace NamedFunction

/-- The value at a number; a negative number has no square root. -/
def value? : NamedFunction → Float → Option Float
  | sqrt, x => if x < 0 then none else some x.sqrt
  | pow2, x => some (x * x)
  | cube, x => some (x * x * x)

/-- The value of the function at the number that is typed. An error holds the text as it was typed.
-/
def call (f : NamedFunction) (t : Text) : Except ArgumentError Float := do
  let x ← readArgument f.name t
  match f.value? x with
  | some y => .ok y
  | none => .error (.negativeRadicand t)

end NamedFunction

end Calculator
