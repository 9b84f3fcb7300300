import Calculator.Expression.Scan

/-!
The value of an expression as its grammar gives it. There is no stack here and no operator that
waits: what is open is what has been called.
-/

namespace Calculator.Descent

/-- A value and the cursor behind it, which has less than a bound before it. -/
structure Behind (α : Type) (bound : Nat) where
  value : α
  cursor : Cursor
  less : cursor.rest.length < bound

variable {α : Type} [Arithmetic α]

mutual

/-- A term, and the terms that are added to it and taken away. -/
def expression (c : Cursor) : Except ParseError (Behind α c.rest.length) := do
  let x ← term c
  let y ← sum x.value x.cursor
  return { y with less := by have := x.less; have := y.less; omega }
termination_by (c.rest.length, 2)
decreasing_by
  · exact Prod.Lex.right _ (by decide)
  · exact Prod.Lex.left _ _ x.less

/-- Adds the terms that follow and takes them away. -/
def sum (value : α) (c : Cursor) : Except ParseError (Behind α (c.rest.length + 1)) :=
  match here : c.char.bind Operator.ofChar? with
  | some op =>
    have shorter : c.advance.rest.length < c.rest.length := by
      obtain ⟨a, char, _⟩ := Option.bind_eq_some_iff.1 here
      exact Cursor.length_rest_advance_lt char
    if op.isProduct then .ok ⟨value, c, Nat.lt_succ_self _⟩
    else do
      let x ← term c.advance
      let y ← sum (Arithmetic.apply value op x.value) x.cursor
      return { y with less := by have := x.less; have := y.less; omega }
  | none => .ok ⟨value, c, Nat.lt_succ_self _⟩
termination_by (c.rest.length, 0)
decreasing_by
  · exact Prod.Lex.left _ _ shorter
  · exact Prod.Lex.left _ _ (Nat.lt_trans x.less shorter)

/-- A factor, and the factors by which it is multiplied and divided. -/
def term (c : Cursor) : Except ParseError (Behind α c.rest.length) := do
  let x ← factor c
  let y ← product x.value x.cursor
  return { y with less := by have := x.less; have := y.less; omega }
termination_by (c.rest.length, 1)
decreasing_by
  · exact Prod.Lex.right _ (by decide)
  · exact Prod.Lex.left _ _ x.less

/-- Multiplies and divides by the factors that follow. -/
def product (value : α) (c : Cursor) : Except ParseError (Behind α (c.rest.length + 1)) :=
  match here : c.char.bind Operator.ofChar? with
  | some op =>
    have shorter : c.advance.rest.length < c.rest.length := by
      obtain ⟨a, char, _⟩ := Option.bind_eq_some_iff.1 here
      exact Cursor.length_rest_advance_lt char
    if op.isProduct then do
      let x ← factor c.advance
      let y ← product (Arithmetic.apply value op x.value) x.cursor
      return { y with less := by have := x.less; have := y.less; omega }
    else .ok ⟨value, c, Nat.lt_succ_self _⟩
  | none => .ok ⟨value, c, Nat.lt_succ_self _⟩
termination_by (c.rest.length, 0)
decreasing_by
  · exact Prod.Lex.left _ _ shorter
  · exact Prod.Lex.left _ _ (Nat.lt_trans x.less shorter)

/-- A factor behind a sign, an expression in parentheses or a literal. -/
def factor (c : Cursor) : Except ParseError (Behind α c.rest.length) :=
  match here : c.char with
  | none => .error (.unexpectedCharacter c.pos none)
  | some a =>
    have shorter : c.advance.rest.length < c.rest.length := Cursor.length_rest_advance_lt here
    if a = '+' then do
      let x ← factor c.advance
      return { x with less := Nat.lt_trans x.less shorter }
    else if a = '-' then do
      let x ← factor c.advance
      return ⟨Arithmetic.negate x.value, x.cursor, Nat.lt_trans x.less shorter⟩
    else if a = '(' then do
      let x ← expression c.advance
      match closing : x.cursor.char with
      | some ')' =>
        return ⟨x.value, x.cursor.advance, by
          have := x.less; have := Cursor.length_rest_advance_lt closing; omega⟩
      | found => throw (.mismatchedParentheses x.cursor.pos found)
    else if numeric : Cursor.isNumeric a then
      match outcome : c.number (α := α) with
      | (.ok value, d) =>
        .ok ⟨value, d, by
          have := Cursor.length_rest_number_lt (α := α) (c := c) (by simp [here, numeric])
          rwa [outcome] at this⟩
      | (.error error, _) => .error error
    else .error (.unexpectedCharacter c.pos a)
termination_by (c.rest.length, 0)
decreasing_by
  all_goals exact Prod.Lex.left _ _ shorter

end

end Descent

/-- The value of a text, separators apart, that is an expression as a whole. -/
def descend {α : Type} [Arithmetic α] (t : Text) : Except ParseError α := do
  let x ← Descent.expression (Cursor.start (Text.strip t))
  if x.cursor.atEnd then return x.value
  else throw (.unexpectedCharacter x.cursor.pos x.cursor.char)

end Calculator
