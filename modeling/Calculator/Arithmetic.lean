import Calculator.Number.Reader

namespace Calculator

inductive Operator where
  | add
  | subtract
  | multiply
  | divide
deriving DecidableEq, Repr

namespace Operator

/-- The character of the operator in an expression. -/
def symbol : Operator → Char
  | add => '+'
  | subtract => '-'
  | multiply => '*'
  | divide => '/'

def ofChar? (c : Char) : Option Operator :=
  if c = '+' then some add
  else if c = '-' then some subtract
  else if c = '*' then some multiply
  else if c = '/' then some divide
  else none

/-- What is no other symbol stands for division. -/
def ofText (t : Text) : Operator :=
  if t = ['+'] then add else if t = ['-'] then subtract else if t = ['*'] then multiply else divide

/-- The operators that bind factors to a term. -/
def isProduct : Operator → Bool
  | multiply | divide => true
  | add | subtract => false

theorem ofChar?_eq_some_iff {c : Char} {op : Operator} : ofChar? c = some op ↔ c = op.symbol := by
  constructor
  · intro found
    simp only [ofChar?] at found
    split at found
    · cases found; assumption
    split at found
    · cases found; assumption
    split at found
    · cases found; assumption
    split at found
    · cases found; assumption
    · cases found
  · rintro rfl
    cases op <;> rfl

end Operator

/-- What the evaluation of an expression needs of the numbers, and nothing else: a zero to start
from, the four operations, negation and the value of a literal. -/
class Arithmetic (α : Type) where
  zero : α
  apply : α → Operator → α → α
  negate : α → α
  /-- The value of a run of digits and points, if it is a number. -/
  literal : Text → Option α

/-- The arithmetic of the calculator. Its division by zero gives an infinity with the sign of the
quotient, or not a number for `0 / 0`. -/
instance : Arithmetic Float where
  zero := 0
  apply
    | x, .add, y => x + y
    | x, .subtract, y => x - y
    | x, .multiply, y => x * y
    | x, .divide, y => x / y
  negate x := -x
  literal t := (Decimal.ofPlain? t).map Decimal.toFloat

end Calculator
