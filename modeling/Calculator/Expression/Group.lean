import Calculator.Arithmetic

namespace Calculator

/-- What is known of one parenthesis level: the sum so far and the product so far, each with the
operator that waits for its right operand, and whether the value of the level is negated. -/
structure Group (α : Type) where
  negate : Bool
  total : α
  addOp : Option Operator
  product : α
  mulOp : Option Operator
deriving DecidableEq, Repr

namespace Group

variable {α : Type} [Arithmetic α]

/-- A level that has just been opened. -/
def opened (negate : Bool) : Group α where
  negate
  total := Arithmetic.zero
  addOp := none
  product := Arithmetic.zero
  mulOp := none

/-- Multiplies or divides the product by a factor, or starts a product with it. -/
def addFactor (g : Group α) (value : α) : Group α :=
  match g.mulOp with
  | none => { g with product := value }
  | some op => { g with product := Arithmetic.apply g.product op value, mulOp := none }

/-- Adds the product to the sum or takes it away, or starts a sum with it. -/
def closeTerm (g : Group α) : Group α :=
  match g.addOp with
  | none => { g with total := g.product }
  | some op => { g with total := Arithmetic.apply g.total op g.product, addOp := none }

/-- Lets an operator wait for a factor, or closes the term and lets it wait for the next one. -/
def addOperator (g : Group α) (op : Operator) : Group α :=
  if op.isProduct then { g with mulOp := some op } else { g.closeTerm with addOp := some op }

/-- The value of the level, its sign apart. -/
def result (g : Group α) : α := g.closeTerm.total

/-- The value with the sign of the level. -/
def signed (g : Group α) (value : α) : α := if g.negate then Arithmetic.negate value else value

/-- What may be done to a group. -/
inductive Step (α : Type) where
  | factor (value : α)
  | operator (op : Operator)
  | result

/-- The group after a step, with the value that a result has. -/
def step (g : Group α) : Step α → Option α × Group α
  | .factor value => (none, g.addFactor value)
  | .operator op => (none, g.addOperator op)
  | .result => (some g.result, g.closeTerm)

/-- The outcome of each step in turn. -/
def trace (g : Group α) : List (Step α) → List (Option α × Group α)
  | [] => []
  | s :: steps => let outcome := g.step s; outcome :: trace outcome.2 steps

end Group

end Calculator
