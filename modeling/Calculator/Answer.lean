import Calculator.Expression.Error
import Calculator.NamedFunction
import Calculator.Settings

namespace Calculator

/-- What is said for a value. -/
def answer (settings : Settings) (x : Float) : String :=
  (if settings.emoji then "🎉 " else "") ++ "The answer is: " ++
    String.ofList (NumberWords.long.write x)

/-- What is said for an expression that cannot be read, which is the same for all errors of a kind.
-/
def ParseError.advice : ParseError → String
  | mismatchedParentheses .. => "Oops! Your parentheses don't match. Please check and try again."
  | unexpectedCharacter .. =>
    "Hmm, I see something I don't understand. Please use only numbers, " ++
      "+, -, *, /, parentheses, square root (sqrt), power of two (pow2), " ++
      "and cube (cube) operations."
  | invalidNumberLiteral .. =>
    "Oops! That doesn't look like a valid expression. Please try again."

/-- What is said for an argument that cannot be used. -/
def ArgumentError.advice : ArgumentError → String
  | notANumber function _ =>
    "Oops! '" ++ function ++ "' needs a number. Please try again with '" ++ function ++
      " <number>'."
  | negativeRadicand _ => "I can only calculate the square root of positive numbers!"

end Calculator
