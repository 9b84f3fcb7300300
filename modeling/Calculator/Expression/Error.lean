import Calculator.ErrorKind
import Calculator.Text.Quoted

namespace Calculator

namespace Text

/-- A text in a message; a missing one is the end of the input. -/
def describe : Option Text → String
  | none => "end of input"
  | some t => String.ofList (quoted t)

end Text

/-- Why a text is no expression, with the place in the text, separators apart, where the reading
stopped, and the character found there, which is missing at the end of the text. -/
inductive ParseError where
  /-- A closing parenthesis is missing. -/
  | mismatchedParentheses (position : Nat) (found : Option Char)
  /-- The character cannot stand where it is. -/
  | unexpectedCharacter (position : Nat) (found : Option Char)
  /-- A run of digits and points is no number. -/
  | invalidNumberLiteral (literal : Text) (position : Nat)
deriving DecidableEq, Repr

namespace ParseError

/-- The kind of the error. -/
def kind : ParseError → ErrorKind
  | mismatchedParentheses .. => .mismatchedParentheses
  | unexpectedCharacter .. => .unexpectedCharacter
  | invalidNumberLiteral .. => .invalidNumberLiteral

def position : ParseError → Nat
  | mismatchedParentheses position _ => position
  | unexpectedCharacter position _ => position
  | invalidNumberLiteral _ position => position

/-- The character at the place of the error. -/
def char : ParseError → Option Char
  | mismatchedParentheses _ found => found
  | unexpectedCharacter _ found => found
  | invalidNumberLiteral literal _ => literal.head?

/-- The message names the place and quotes what was found there. -/
def message : ParseError → String
  | mismatchedParentheses position found =>
    s!"Mismatched parentheses: expected ')' at position {position}, found " ++
      Text.describe (found.map ([·]))
  | unexpectedCharacter position found =>
    "Unexpected: " ++ Text.describe (found.map ([·])) ++ s!" at position {position}"
  | invalidNumberLiteral literal position =>
    "Invalid number literal " ++ Text.describe (some literal) ++ s!" at position {position}"

end ParseError

end Calculator
