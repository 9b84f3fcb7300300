import Calculator.Text.Blank
import Mathlib.Computability.RegularExpressions

namespace Calculator

/-- A regular expression; a text has the pattern if the whole of it matches. -/
abbrev Pattern := RegularExpression Char

namespace Pattern

/-- One of some characters. -/
def oneOf (t : Text) : Pattern := (t.map RegularExpression.char).sum

/-- The characters of a word in turn. -/
def word (t : Text) : Pattern := (t.map RegularExpression.char).prod

def maybe (p : Pattern) : Pattern := 1 + p

def digit : Pattern := oneOf "0123456789".toList

def digits : Pattern := digit * digit.star

def sign : Pattern := maybe (oneOf ['+', '-'])

/-- Digits with at most one point among them. -/
def plain : Pattern := digits * maybe (oneOf ['.']) * digit.star + oneOf ['.'] * digits

def exponent : Pattern := oneOf ['e', 'E'] * sign * digits

def numeral : Pattern :=
  sign * (word "NaN".toList + word "Infinity".toList + plain * maybe exponent)

/-- What may be typed as an argument:

    [+-]?(?:NaN|Infinity|(?:\d+\.?\d*|\.\d+)(?:[eE][+-]?\d+)?)[fFdD]?

with `\d` for the ten ASCII digits. -/
def argument : Pattern := numeral * maybe (oneOf ['f', 'F', 'd', 'D'])

end Pattern

end Calculator
