import Calculator.Expression.Evaluate

namespace Calculator.Cursor

/-- Whatever can be read at a cursor. -/
inductive Step where
  | advance
  | eat (expected : Text)
  | signs
  | operator
  | number
  | expression
deriving DecidableEq, Repr

/-- What a step gives apart from the cursor behind it. -/
inductive Outcome (α : Type) where
  | moved
  | answer (yes : Bool)
  | operator (op : Option Operator)
  | value (value : α)
  | error (error : ParseError)

namespace Outcome

def ofExcept {α : Type} : Except ParseError α → Outcome α
  | .ok x => value x
  | .error e => error e

end Outcome

variable {α : Type} [Arithmetic α]

/-- Reads at the cursor. Steps can follow each other in any order, also after one that failed. -/
def step (c : Cursor) : Step → Outcome α × Cursor
  | .advance => (.moved, c.advance)
  | .eat expected => ((c.eatText expected).map .answer id)
  | .signs => c.signs.map .answer id
  | .operator => c.operator.map .operator id
  | .number => c.number.map .ofExcept id
  | .expression => c.expression.map .ofExcept id

/-- The outcome of each step in turn. -/
def trace (c : Cursor) : List Step → List (Outcome α × Cursor)
  | [] => []
  | s :: steps => let outcome := c.step s; outcome :: trace outcome.2 steps

end Calculator.Cursor
