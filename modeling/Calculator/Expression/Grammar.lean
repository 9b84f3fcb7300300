import Calculator.Arithmetic
import Calculator.Number.Grammar

namespace Calculator

/-- The three levels of the grammar. -/
inductive Level where
  | expression
  | term
  | factor
deriving DecidableEq, Repr

namespace Level

/-- How tightly the level binds. -/
def rank : Level → Nat
  | expression => 0
  | term => 1
  | factor => 2

end Level

namespace Operator

/-- The level of what the operator makes, and of its left operand. -/
def level (op : Operator) : Level := if op.isProduct then .term else .expression

/-- The level of the right operand. -/
def operandLevel (op : Operator) : Level := if op.isProduct then .factor else .term

end Operator

/-- Which texts stand at which level:

    expression ::= term | expression ('+' | '-') term
    term       ::= factor | term ('*' | '/') factor
    factor     ::= ('+' | '-') factor | '(' expression ')' | number

Separators are no part of the grammar. A number is a plain decimal. -/
inductive Derives : Level → Text → Prop
  | term {t : Text} (term : Derives .term t) : Derives .expression t
  | factor {t : Text} (factor : Derives .factor t) : Derives .term t
  | binary (op : Operator) {s t : Text} (left : Derives op.level s)
      (right : Derives op.operandLevel t) : Derives op.level (s ++ op.symbol :: t)
  | sign {sign : Char} {t : Text} (isSign : sign = '+' ∨ sign = '-')
      (operand : Derives .factor t) : Derives .factor (sign :: t)
  | group {t : Text} (expression : Derives .expression t) :
      Derives .factor ('(' :: t ++ [')'])
  | number {t : Text} (plain : Decimal.IsPlain t) : Derives .factor t

namespace Derives

/-- A text that stands at a level stands at the levels that bind less tightly as well. -/
theorem weaken {level outer : Level} {t : Text} (derives : Derives level t)
    (looser : outer.rank ≤ level.rank) : Derives outer t := by
  cases level <;> cases outer <;> simp only [Level.rank] at looser
  case expression.expression => exact derives
  case expression.term => omega
  case expression.factor => omega
  case term.expression => exact .term derives
  case term.term => exact derives
  case term.factor => omega
  case factor.expression => exact .term (.factor derives)
  case factor.term => exact .factor derives
  case factor.factor => exact derives

end Derives

end Calculator
