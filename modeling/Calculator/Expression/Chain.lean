import Calculator.Expression.Group

namespace Calculator

/-- A factor with operators and further factors behind it: what stands on one parenthesis level. -/
structure Chain (α : Type) where
  first : α
  others : List (Operator × α)
deriving DecidableEq, Repr

namespace Chain

variable {α : Type}

/-- The pieces between the operators that add and subtract. -/
def cut (first : α) : List (Operator × α) → Chain (Chain α)
  | [] => ⟨⟨first, []⟩, []⟩
  | (op, x) :: others =>
    let rest := cut x others
    if op.isProduct then ⟨⟨first, (op, x) :: rest.first.others⟩, rest.others⟩
    else ⟨⟨first, []⟩, (op, rest.first) :: rest.others⟩

/-- What is done to a group for a chain: its factors and operators in turn, and the result. -/
def steps (c : Chain α) : List (Group.Step α) :=
  .factor c.first :: c.others.flatMap (fun p => [.operator p.1, .factor p.2]) ++ [.result]

/-- The pieces put together again. -/
def join (terms : Chain (Chain α)) : Chain α where
  first := terms.first.first
  others := terms.first.others ++ terms.others.flatMap fun p => (p.1, p.2.first) :: p.2.others

theorem join_cut (first : α) (others : List (Operator × α)) :
    join (cut first others) = ⟨first, others⟩ := by
  induction others generalizing first with
  | nil => rfl
  | cons p others ih =>
    obtain ⟨op, x⟩ := p
    have rest := ih x
    simp only [join, Chain.mk.injEq] at rest
    simp only [cut]
    split <;> simp [join, rest.1, rest.2]

variable [Arithmetic α]

/-- Applies the operators from left to right. -/
def fold (c : Chain α) : α :=
  c.others.foldl (fun x p => Arithmetic.apply x p.1 p.2) c.first

/-- The value in two rounds: each piece is folded from the left, and so are the values of the
pieces. -/
def value (c : Chain α) : α :=
  let terms := cut c.first c.others
  fold ⟨terms.first.fold, terms.others.map fun p => (p.1, p.2.fold)⟩

end Chain

end Calculator
