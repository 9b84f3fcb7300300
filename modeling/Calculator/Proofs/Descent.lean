import Calculator.Expression.Descent
import Calculator.Proofs.Arithmetic
import Calculator.Proofs.Moves

/-!
What a reading has on its stack is what a recursive descent has called and not yet come back from.
`Reading.meaning` is the rest of the descent that a reading stands for, and every step keeps it.
-/

namespace Calculator

open Cursor

namespace Descent

section

variable {α : Type}

/-- The value and the cursor without the bound. -/
def Behind.pair {bound : Nat} (x : Behind α bound) : α × Cursor := (x.value, x.cursor)

/-- What is asked behind the expression in a group. -/
def closeGroup (p : α × Cursor) : Except ParseError (α × Cursor) :=
  if p.2.char = some ')' then .ok (p.1, p.2.advance)
  else .error (.mismatchedParentheses p.2.pos p.2.char)

private theorem map_bind_of_map_eq {β γ β' γ' : Type} {x : Except ParseError β}
    {k : β → Except ParseError γ} {f : β → β'} {g : γ → γ'} {k' : β' → Except ParseError γ'}
    (same : ∀ b, (k b).map g = k' (f b)) : (x >>= k).map g = x.map f >>= k' := by
  cases x with
  | error e => rfl
  | ok b => exact same b

/-- The bound does not count. -/
private theorem map_pair_weaken {m n : Nat} (x : Except ParseError (Behind α m))
    (less : ∀ y : Behind α m, y.cursor.rest.length < n) :
    (x >>= fun y => pure (⟨y.value, y.cursor, less y⟩ : Behind α n)).map Behind.pair =
      x.map Behind.pair := by
  cases x <;> rfl

end

variable (α : Type) [Arithmetic α]

/-- The descent at a cursor, here and below without the bounds that make it end. -/
def expressionAt (c : Cursor) : Except ParseError (α × Cursor) := (expression c).map Behind.pair

def termAt (c : Cursor) : Except ParseError (α × Cursor) := (term c).map Behind.pair

def factorAt (c : Cursor) : Except ParseError (α × Cursor) := (factor c).map Behind.pair

variable {α}

/-- What the descent makes of a value and the terms behind it. -/
def sumFrom (value : α) (c : Cursor) : Except ParseError (α × Cursor) :=
  (sum value c).map Behind.pair

/-- What the descent makes of a value and the factors behind it. -/
def productFrom (value : α) (c : Cursor) : Except ParseError (α × Cursor) :=
  (product value c).map Behind.pair

theorem expressionAt_eq (c : Cursor) :
    expressionAt α c = termAt α c >>= fun p => sumFrom p.1 p.2 := by
  rw [expressionAt, termAt, expression]
  exact map_bind_of_map_eq fun x => map_pair_weaken _ _

theorem termAt_eq (c : Cursor) :
    termAt α c = factorAt α c >>= fun p => productFrom p.1 p.2 := by
  rw [termAt, factorAt, term]
  exact map_bind_of_map_eq fun x => map_pair_weaken _ _

theorem sumFrom_operator {value : α} {c : Cursor} {op : Operator} (here : c.char = some op.symbol)
    (adds : op.isProduct = false) :
    sumFrom value c =
      termAt α c.advance >>= fun p => sumFrom (Arithmetic.apply value op p.1) p.2 := by
  have found := bind_ofChar?_eq_some_iff.2 here
  rw [sumFrom, termAt, sum]
  split
  case h_1 op' found' =>
    cases found.symm.trans found'
    rw [if_neg (by simp [adds])]
    exact map_bind_of_map_eq fun x => map_pair_weaken _ _
  case h_2 missing => simp [found] at missing

/-- A sum ends where no operator adds or subtracts. -/
theorem sumFrom_stop {value : α} {c : Cursor}
    (stop : ∀ op, c.char = some (Operator.symbol op) → op.isProduct = true) :
    sumFrom value c = .ok (value, c) := by
  rw [sumFrom, sum]
  split
  case h_1 op found =>
    rw [if_pos (stop op (bind_ofChar?_eq_some_iff.1 found))]
    rfl
  case h_2 => rfl

theorem sumFrom_of_noOperator {value : α} {c : Cursor}
    (noOperator : ∀ op, c.char ≠ some (Operator.symbol op)) : sumFrom value c = .ok (value, c) :=
  sumFrom_stop fun op here => absurd here (noOperator op)

theorem productFrom_operator {value : α} {c : Cursor} {op : Operator}
    (here : c.char = some op.symbol) (multiplies : op.isProduct = true) :
    productFrom value c =
      factorAt α c.advance >>= fun p => productFrom (Arithmetic.apply value op p.1) p.2 := by
  have found := bind_ofChar?_eq_some_iff.2 here
  rw [productFrom, factorAt, product]
  split
  case h_1 op' found' =>
    cases found.symm.trans found'
    rw [if_pos multiplies]
    exact map_bind_of_map_eq fun x => map_pair_weaken _ _
  case h_2 missing => simp [found] at missing

/-- A product ends where no operator multiplies or divides. -/
theorem productFrom_stop {value : α} {c : Cursor}
    (stop : ∀ op, c.char = some (Operator.symbol op) → op.isProduct = false) :
    productFrom value c = .ok (value, c) := by
  rw [productFrom, product]
  split
  case h_1 op found =>
    rw [if_neg (by simp [stop op (bind_ofChar?_eq_some_iff.1 found)])]
    rfl
  case h_2 => rfl

theorem factorAt_plus {c : Cursor} (here : c.char = some '+') :
    factorAt α c = factorAt α c.advance := by
  rw [factorAt, factor]
  split
  case h_1 none => simp [here] at none
  case h_2 a found =>
    cases here.symm.trans found
    exact map_pair_weaken _ _

theorem factorAt_minus {c : Cursor} (here : c.char = some '-') :
    factorAt α c =
      factorAt α c.advance >>= fun p => .ok (Arithmetic.negate p.1, p.2) := by
  rw [factorAt, factor]
  split
  case h_1 none => simp [here] at none
  case h_2 a found =>
    cases here.symm.trans found
    exact map_bind_of_map_eq fun x => rfl

theorem factorAt_group {c : Cursor} (here : c.char = some '(') :
    factorAt α c = expressionAt α c.advance >>= closeGroup := by
  rw [factorAt, factor]
  split
  case h_1 none => simp [here] at none
  case h_2 a found =>
    cases here.symm.trans found
    refine map_bind_of_map_eq fun x => ?_
    rw [closeGroup, Behind.pair]
    split
    case h_1 closing => rw [if_pos closing]; rfl
    case h_2 other => rw [if_neg other]; rfl

theorem factorAt_number {c : Cursor} (here : c.char.any isNumeric = true) :
    factorAt α c = (c.number (α := α)).1.map fun value => (value, c.skip isNumeric) := by
  rw [factorAt, factor]
  split
  case h_1 none => simp [none] at here
  case h_2 a found =>
    have numeric : isNumeric a = true := by simpa [found] using here
    have noSign : a ≠ '+' ∧ a ≠ '-' ∧ a ≠ '(' := by
      refine ⟨?_, ?_, ?_⟩ <;> rintro rfl <;> exact absurd numeric (by decide)
    rw [if_neg noSign.1, if_neg noSign.2.1, if_neg noSign.2.2, dif_pos numeric]
    split
    case h_1 value d outcome =>
      change Except.ok (value, d) = _
      rw [← snd_number (α := α), outcome]
      rfl
    case h_2 error d outcome => rw [outcome]; rfl

theorem factorAt_other {c : Cursor} (noSign : c.char ≠ some '+' ∧ c.char ≠ some '-')
    (noGroup : c.char ≠ some '(') (noNumber : c.char.any isNumeric = false) :
    factorAt α c = .error (.unexpectedCharacter c.pos c.char) := by
  rw [factorAt, factor]
  split
  case h_1 none => rw [none]; rfl
  case h_2 a found =>
    have notNumeric : ¬ isNumeric a = true := by simpa [found] using noNumber
    simp only [found, ne_eq, Option.some.injEq] at noSign noGroup
    rw [if_neg noSign.1, if_neg noSign.2, if_neg noGroup, dif_neg notNumeric, found]
    rfl

/-- Behind signs only the parity of the minus signs counts. -/
theorem factorAt_signs (involutive : ∀ x : α, Arithmetic.negate (Arithmetic.negate x) = x)
    {c d : Cursor} {run : Text} (signs : SignRun c run d) :
    factorAt α c =
      (factorAt α d).map fun p => (Arithmetic.withSign (negates run) p.1, p.2) := by
  induction run generalizing c with
  | nil =>
    obtain rfl : d = c := by simpa using signs.forward
    cases factorAt α d <;> rfl
  | cons a run ih =>
    obtain ⟨here, tail⟩ := signs.tail
    rcases signs.signs a List.mem_cons_self with rfl | rfl
    · rw [factorAt_plus here, ih tail, negates_cons_plus]
    · rw [factorAt_minus here, ih tail, negates_cons_minus]
      cases factorAt α d with
      | error e => rfl
      | ok p =>
        cases negates run with
        | false => rfl
        | true =>
          change Except.ok (Arithmetic.negate (Arithmetic.negate p.1), p.2) = Except.ok (p.1, p.2)
          rw [involutive]

end Descent

/-! ## The descent that a reading stands for -/

variable {α : Type} [Arithmetic α]

namespace Group

@[simp] theorem mulOp_addFactor (group : Group α) (value : α) :
    (group.addFactor value).mulOp = none := by
  rw [addFactor]
  split
  case h_1 none => exact none
  case h_2 => rfl

@[simp] theorem negate_addFactor (group : Group α) (value : α) :
    (group.addFactor value).negate = group.negate := by
  rw [addFactor]
  split <;> rfl

@[simp] theorem negate_addOperator (group : Group α) (op : Operator) :
    (group.addOperator op).negate = group.negate := by
  simp only [addOperator, closeTerm]
  split_ifs
  · rfl
  · cases group.addOp <;> rfl

theorem signed_eq (group : Group α) : group.signed = Arithmetic.withSign group.negate := rfl

theorem addFactor_addOperator_of_product {group : Group α} (taken : group.mulOp = none)
    {op : Operator} (kind : op.isProduct = true) (value : α) :
    (group.addOperator op).addFactor value =
      { group with product := Arithmetic.apply group.product op value } := by
  cases group
  cases taken
  simp [addOperator, addFactor, kind]

theorem addFactor_addOperator_of_sum {group : Group α} (taken : group.mulOp = none)
    {op : Operator} (kind : op.isProduct = false) (value : α) :
    (group.addOperator op).addFactor value =
      { group with total := group.result, addOp := some op, product := value } := by
  cases group with | mk negate total addOp product mulOp =>
  cases taken
  cases addOp <;> simp [addOperator, addFactor, result, closeTerm, kind]

end Group

namespace Reading

open Descent

/-- The rest of a level whose group has taken the factor before the cursor. -/
def finishLevel (group : Group α) (c : Cursor) : Except ParseError (α × Cursor) :=
  productFrom group.product c >>= fun p => sumFrom { group with product := p.1 }.result p.2

/-- The rest of all open levels, the innermost one first. -/
def finishLevels : List (Group α) → Group α → Cursor → Except ParseError (α × Cursor)
  | [], group, c => finishLevel group c
  | outer :: stack, group, c =>
    finishLevel group c >>= closeGroup >>= fun p =>
      finishLevels stack (outer.addFactor (group.signed p.1)) p.2

/-- The value that the descent comes back with, and the cursor behind it. -/
def meaning : Reading α → Except ParseError (α × Cursor)
  | factor stack group c => factorAt α c >>= fun p => finishLevels stack (group.addFactor p.1) p.2
  | behind stack group value c => finishLevels stack (group.addFactor value) c

/-- A level that has just been opened is an expression, whatever its sign. -/
theorem expressionAt_eq_finishLevel (negative : Bool) (c : Cursor) :
    expressionAt α c =
      factorAt α c >>= fun p => finishLevel ((Group.opened negative).addFactor p.1) p.2 := by
  rw [expressionAt_eq, termAt_eq]
  cases factorAt α c <;> rfl

theorem finishLevel_stop {group : Group α} {c : Cursor}
    (noOperator : ∀ op, c.char ≠ some (Operator.symbol op)) :
    finishLevel group c = .ok (group.result, c) := by
  rw [finishLevel, productFrom_stop fun op here => absurd here (noOperator op)]
  exact sumFrom_of_noOperator noOperator

/-- An operator that multiplies waits for the next factor, one that adds for the next term. -/
theorem finishLevel_operator {group : Group α} (taken : group.mulOp = none) {c : Cursor}
    {op : Operator} (here : c.char = some op.symbol) :
    finishLevel group c =
      factorAt α c.advance >>= fun p =>
        finishLevel ((group.addOperator op).addFactor p.1) p.2 := by
  cases kind : op.isProduct with
  | true =>
    simp only [Group.addFactor_addOperator_of_product taken kind]
    rw [finishLevel, productFrom_operator here kind]
    cases factorAt α c.advance <;> rfl
  | false =>
    simp only [Group.addFactor_addOperator_of_sum taken kind]
    rw [finishLevel, productFrom_stop fun op' here' => operator_unique here here' ▸ kind]
    change sumFrom group.result c = _
    rw [sumFrom_operator here kind, termAt_eq]
    cases factorAt α c.advance <;> rfl

theorem finishLevels_operator {stack : List (Group α)} {group : Group α}
    (taken : group.mulOp = none) {c : Cursor} {op : Operator} (here : c.char = some op.symbol) :
    finishLevels stack group c =
      factorAt α c.advance >>= fun p =>
        finishLevels stack ((group.addOperator op).addFactor p.1) p.2 := by
  cases stack with
  | nil => exact finishLevel_operator taken here
  | cons outer stack =>
    rw [finishLevels, finishLevel_operator taken here]
    simp only [finishLevels, Group.signed_eq, Group.negate_addFactor, Group.negate_addOperator]
    cases factorAt α c.advance <;> rfl

end Reading

/-- What the descent comes back with once the progress has been made. -/
def Progress.meaning : Progress α → Except ParseError (α × Cursor)
  | next r => r.meaning
  | stop outcome c => outcome.map fun value => (value, c)

namespace Reading

open Descent

/-- Every step keeps the meaning, so what the descent would still do is what the loop still does. -/
theorem meaning_of_move (involutive : ∀ x : α, Arithmetic.negate (Arithmetic.negate x) = x)
    {r : Reading α} {p : Progress α} (move : Move r p) : r.meaning = p.meaning := by
  cases move with
  | opening signs here =>
    rename_i stack group c run d
    rw [meaning, factorAt_signs involutive signs, factorAt_group here,
      expressionAt_eq_finishLevel (negates run)]
    simp only [Progress.meaning, meaning, finishLevels, Group.signed_eq, Group.negate_addFactor]
    cases factorAt α d.advance with
    | error e => rfl
    | ok p =>
      change (Except.map _ (finishLevel _ _ >>= closeGroup)) >>= _ =
        finishLevel _ _ >>= closeGroup >>= _
      cases finishLevel ((Group.opened (negates run)).addFactor p.1) p.2 >>= closeGroup <;> rfl
  | literal signs here found =>
    rw [meaning, factorAt_signs involutive signs, factorAt_number here, number, found]
    rfl
  | noLiteral signs here valueless =>
    rw [meaning, factorAt_signs involutive signs, factorAt_number here, number, valueless]
    rfl
  | noFactor signs noGroup noNumber =>
    rw [meaning, factorAt_signs involutive signs, factorAt_other signs.stop noGroup noNumber]
    rfl
  | operator here => exact finishLevels_operator (Group.mulOp_addFactor _ _) here
  | result noOperator => exact finishLevel_stop noOperator
  | closing here =>
    rw [meaning, finishLevels, finishLevel_stop (ne_symbol_of_closing here)]
    change closeGroup _ >>= _ = _
    rw [closeGroup, if_pos here]
    rfl
  | unclosed noOperator noClosing =>
    rw [meaning, finishLevels, finishLevel_stop noOperator]
    change closeGroup _ >>= _ = _
    rw [closeGroup, if_neg noClosing]
    rfl

/-- The run comes back with what the descent comes back with, and leaves the cursor at the same
place. -/
theorem meaning_eq_run (involutive : ∀ x : α, Arithmetic.negate (Arithmetic.negate x) = x)
    {r : Reading α} (spaceless : r.cursor.Spaceless) :
    r.meaning = r.run.1.map fun value => (value, r.run.2) := by
  -- no step changes the meaning, and where the run stops the meaning is the outcome
  obtain ⟨s, same, stop⟩ := exists_stop_of_invariant (fun s => r.meaning = s.meaning)
    (fun same move => same.trans (meaning_of_move involutive move)) spaceless rfl
  exact same.trans (meaning_of_move involutive stop)

end Reading

namespace Descent

/-- What is asked behind the expression in a text. -/
def closeText (p : α × Cursor) : Except ParseError α :=
  if p.2.atEnd then .ok p.1 else .error (.unexpectedCharacter p.2.pos p.2.char)

theorem descend_eq (t : Text) :
    descend t = expressionAt α (Cursor.start (Text.strip t)) >>= closeText := by
  rw [descend, expressionAt]
  cases expression (α := α) (Cursor.start (Text.strip t)) <;> rfl

theorem evaluate_eq (involutive : ∀ x : α, Arithmetic.negate (Arithmetic.negate x) = x) (t : Text) :
    evaluate t = expressionAt α (Cursor.start (Text.strip t)) >>= closeText := by
  have run := Reading.meaning_eq_run involutive
    (r := .factor [] (.opened false) (Cursor.start (Text.strip t))) (Cursor.spaceless_start_strip t)
  have start : expressionAt α (Cursor.start (Text.strip t)) =
      (Reading.factor [] (.opened false) (Cursor.start (Text.strip t))).meaning :=
    Reading.expressionAt_eq_finishLevel false _
  rw [start, run, evaluate, Cursor.expression]
  cases (Reading.factor [] (Group.opened (α := α) false) (Cursor.start (Text.strip t))).run with
  | mk outcome c => cases outcome <;> rfl

end Descent

/-- One pass with a stack gives what the recursive descent gives, value or error, on doubles and on
any arithmetic in which negating twice gives a number back. -/
theorem evaluate_eq_descend :
    (∀ t : Text, (evaluate t : Except ParseError Float) = descend t) ∧
      ∀ {α : Type} [Arithmetic α], (∀ x : α, Arithmetic.negate (Arithmetic.negate x) = x) →
        ∀ t : Text, (evaluate t : Except ParseError α) = descend t := by
  constructor
  · intro t
    exact (Descent.evaluate_eq negate_negate t).trans (Descent.descend_eq t).symm
  · intro α _ involutive t
    exact (Descent.evaluate_eq involutive t).trans (Descent.descend_eq t).symm

theorem evaluate_eq_descend_unclosed :
    (∀ x : Float, Arithmetic.negate (Arithmetic.negate x) = x) ∧
      (evaluate "-(1 + --(2 * 3)".toList : Except ParseError Float) =
        descend "-(1 + --(2 * 3)".toList :=
  ⟨negate_negate, evaluate_eq_descend.2 negate_negate _⟩

end Calculator
