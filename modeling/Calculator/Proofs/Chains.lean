import Calculator.Expression.Chain
import Calculator.Proofs.Descent

/-!
The fields of a group hold a sum that is not finished and a term of it that is not finished. What
they come to, with a rest of the chain to follow, is `Group.finished`, and every operator with its
factor keeps it, whatever the arithmetic is.
-/

namespace Calculator

variable {α : Type}

namespace Chain

/-- The pieces of a chain hold the operators that multiply and divide, and only such. The others
stand between the pieces. -/
structure IsCut (terms : Chain (Chain α)) (c : Chain α) : Prop where
  join : terms.join = c
  within : ∀ term ∈ terms.first :: terms.others.map (·.2), ∀ p ∈ term.others, p.1.isProduct = true
  between : ∀ p ∈ terms.others, p.1.isProduct = false

theorem isCut_cut (first : α) (others : List (Operator × α)) :
    IsCut (cut first others) ⟨first, others⟩ := by
  refine ⟨join_cut first others, ?_, ?_⟩
  · induction others generalizing first with
    | nil => simp [cut]
    | cons p others ih =>
      have later := ih p.2
      by_cases kind : p.1.isProduct = true
      · simp only [cut, kind, if_true, List.forall_mem_cons] at later ⊢
        exact ⟨⟨trivial, later.1⟩, later.2⟩
      · simpa [cut, kind] using later
  · induction others generalizing first with
    | nil => simp [cut]
    | cons p others ih =>
      have later := ih p.2
      by_cases kind : p.1.isProduct = true
      · simpa [cut, kind] using later
      · simpa [cut, kind] using later

/-- Where a chain is cut does not hang on its first factor. -/
theorem cut_eq (first other : α) (others : List (Operator × α)) :
    cut first others =
      ⟨⟨first, (cut other others).first.others⟩, (cut other others).others⟩ := by
  cases others with
  | nil => rfl
  | cons p others =>
    simp only [cut]
    split <;> rfl

variable [Arithmetic α]

/-- The values of the pieces, folded from a value that stands for the first piece. -/
def foldTerms (terms : Chain (Chain α)) (first : α) : α :=
  fold ⟨first, terms.others.map fun p => (p.1, p.2.fold)⟩

/-- The value is that of the first piece, with the others added to it and taken away. -/
theorem value_eq (c : Chain α) :
    c.value = foldTerms (cut c.first c.others) (cut c.first c.others).first.fold := rfl

end Chain

namespace Group

open Chain

variable [Arithmetic α]

/-- The group after some steps. -/
def after (g : Group α) (steps : List (Step α)) : Group α :=
  steps.foldl (fun g s => (g.step s).2) g

/-- The steps for the operators of a chain with the factors behind them. -/
def links (others : List (Operator × α)) : List (Step α) :=
  others.flatMap fun p => [.operator p.1, .factor p.2]

/-- The sum so far with a finished term. -/
def sumWith (g : Group α) (term : α) : α := { g with product := term }.result

/-- What the group comes to if the rest of a chain follows. -/
def finished (g : Group α) (others : List (Operator × α)) : α :=
  let terms := cut g.product others
  foldTerms terms (g.sumWith terms.first.fold)

theorem finished_nil (g : Group α) : g.finished [] = g.result := rfl

/-- A factor behind an operator belongs to the term that is open, or opens the next one. -/
theorem finished_link {g : Group α} (taken : g.mulOp = none) (p : Operator × α)
    (others : List (Operator × α)) :
    ((g.addOperator p.1).addFactor p.2).finished others = g.finished (p :: others) := by
  cases kind : p.1.isProduct with
  | true =>
    rw [addFactor_addOperator_of_product taken kind]
    simp only [finished, cut, kind, if_true]
    rw [cut_eq _ p.2]
    rfl
  | false =>
    rw [addFactor_addOperator_of_sum taken kind]
    simp only [finished, cut, kind, Bool.false_eq_true, if_false]
    rfl

/-- The invariant over a whole chain: no operator waits behind it, and the result is what the group
comes to. -/
theorem after_links {g : Group α} (taken : g.mulOp = none) (others : List (Operator × α)) :
    (g.after (links others)).mulOp = none ∧
      (g.after (links others)).result = g.finished others := by
  induction others generalizing g with
  | nil => exact ⟨taken, (g.finished_nil).symm⟩
  | cons p others ih =>
    have next := ih (g := (g.addOperator p.1).addFactor p.2) (mulOp_addFactor _ _)
    rw [finished_link taken] at next
    exact next

/-- A group without an operator that waits takes the first factor as its product, and as a term. -/
theorem finished_first (g : Group α) (c : Chain α) :
    ({ g with addOp := none, mulOp := none }.addFactor c.first).finished c.others = c.value := by
  rw [value_eq]
  rfl

@[simp] theorem negate_closeTerm (g : Group α) : g.closeTerm.negate = g.negate := by
  rw [closeTerm]
  split <;> rfl

/-- No step touches the sign of the group. -/
@[simp] theorem negate_step (g : Group α) (s : Step α) : (g.step s).2.negate = g.negate := by
  cases s with
  | factor value => exact g.negate_addFactor value
  | operator op => exact g.negate_addOperator op
  | result => exact g.negate_closeTerm

theorem negate_of_mem_trace {g : Group α} {steps : List (Step α)} {outcome : Option α × Group α}
    (member : outcome ∈ g.trace steps) : outcome.2.negate = g.negate := by
  induction steps generalizing g with
  | nil => cases member
  | cons s steps ih =>
    rcases List.mem_cons.1 member with rfl | later
    · exact g.negate_step s
    · exact (ih later).trans (g.negate_step s)

/-- The last outcome is that of the last step on the group behind the others. -/
theorem getLast?_trace_concat (g : Group α) (steps : List (Step α)) (s : Step α) :
    (g.trace (steps ++ [s])).getLast? = some ((g.after steps).step s) := by
  induction steps generalizing g with
  | nil => rfl
  | cons t steps ih =>
    have later := ih (g.step t).2
    rw [List.cons_append, trace, List.getLast?_cons, later]
    rfl

@[simp] theorem addOp_closeTerm (g : Group α) : g.closeTerm.addOp = none := by
  rw [closeTerm]
  split
  case h_1 none => exact none
  case h_2 => rfl

@[simp] theorem product_closeTerm (g : Group α) : g.closeTerm.product = g.product := by
  rw [closeTerm]
  split <;> rfl

@[simp] theorem mulOp_closeTerm (g : Group α) : g.closeTerm.mulOp = g.mulOp := by
  rw [closeTerm]
  split <;> rfl

/-- A group in which no operator waits, driven through a chain, ends with the value of the chain:
its pieces are folded from the left, and so are their values. Nothing of what the group held before
counts, no operator waits afterwards, and the sign of the group stays. -/
theorem getLast?_trace_steps (g : Group α) (c : Chain α) :
    let start := { g with addOp := none, mulOp := none }
    let terms := cut c.first c.others
    IsCut terms c ∧
    (∃ closed,
      (start.trace c.steps).getLast? =
        some (some (fold ⟨terms.first.fold, terms.others.map fun p => (p.1, p.2.fold)⟩), closed) ∧
      closed.addOp = none ∧ closed.mulOp = none) ∧
    ∀ outcome ∈ start.trace c.steps, outcome.2.negate = g.negate := by
  intro start terms
  have sign : start.negate = g.negate := rfl
  obtain ⟨taken, result⟩ := after_links (mulOp_addFactor start c.first) c.others
  rw [finished_first] at result
  have last : (start.trace c.steps).getLast? =
      some ((start.after (.factor c.first :: links c.others)).step .result) :=
    start.getLast?_trace_concat _ .result
  refine ⟨isCut_cut c.first c.others, ?_, fun outcome member => ?_⟩
  · refine ⟨_, last.trans ?_, addOp_closeTerm _, (mulOp_closeTerm _).trans taken⟩
    change some (some ((start.addFactor c.first).after (links c.others)).result, _) = _
    rw [result]
    rfl
  · exact (negate_of_mem_trace member).trans sign

end Group

end Calculator
