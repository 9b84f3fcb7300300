import Calculator.Expression.Group
import Calculator.Expression.Scan

/-!
An expression is read in one pass forward. The groups around the current one wait on a stack, the
innermost first, and every step leaves less of the text, so the reading comes to an end.
-/

namespace Calculator

/-- A place between two steps of the reading of an expression. -/
inductive Reading (α : Type) where
  /-- A factor comes next, for which the group waits. -/
  | factor (stack : List (Group α)) (group : Group α) (cursor : Cursor)
  /-- The value is that of the factor before the cursor, which the group has not taken yet. -/
  | behind (stack : List (Group α)) (group : Group α) (value : α) (cursor : Cursor)

/-- What a step leads to. -/
inductive Progress (α : Type) where
  | next (reading : Reading α)
  /-- The value or the first error, with the cursor where the reading stopped. -/
  | stop (outcome : Except ParseError α) (cursor : Cursor)

def Reading.cursor {α : Type} : Reading α → Cursor
  | factor _ _ c => c
  | behind _ _ _ c => c

variable {α : Type} [Arithmetic α]

/-- A literal at the cursor, whose signs have been read. -/
def Cursor.signedNumber (negate : Bool) (c : Cursor) : Except ParseError α × Cursor :=
  if c.char.any isNumeric then
    match number (α := α) c with
    | (.ok value, d) => (.ok (if negate then Arithmetic.negate value else value), d)
    | (.error error, d) => (.error error, d)
  else (.error (.unexpectedCharacter c.pos c.char), c)

namespace Reading

/-- Reads signs with a parenthesis or a literal behind them. -/
def readFactor (stack : List (Group α)) (group : Group α) (c : Cursor) : Progress α :=
  match c.signs.2.eat '(' with
  | (true, d) => .next (.factor (group :: stack) (.opened c.signs.1) d)
  | (false, d) =>
    match d.signedNumber c.signs.1 with
    | (.ok value, e) => .next (.behind stack group value e)
    | (.error error, e) => .stop (.error error) e

/-- Reads the operator behind a factor, or else the parenthesis that closes the group. -/
def readBehind (stack : List (Group α)) (group : Group α) (value : α) (c : Cursor) : Progress α :=
  let group := group.addFactor value
  match c.operator with
  | (some op, d) => .next (.factor stack (group.addOperator op) d)
  | (none, d) =>
    match stack with
    | [] => .stop (.ok group.result) d
    | outer :: stack =>
      match d.eat ')' with
      | (true, e) => .next (.behind stack outer (group.signed group.result) e)
      | (false, e) => .stop (.error (.mismatchedParentheses e.pos e.char)) e

/-- One step, which reads a factor or what stands behind one. -/
def step : Reading α → Progress α
  | factor stack group c => readFactor stack group c
  | behind stack group value c => readBehind stack group value c

end Reading

namespace Cursor

theorem length_rest_signedNumber_lt {negate : Bool} {c d : Cursor} {value : α}
    (found : c.signedNumber negate = (.ok value, d)) : d.rest.length < c.rest.length := by
  rw [signedNumber] at found
  split at found
  case isTrue here =>
    have shorter := length_rest_number_lt (α := α) here
    split at found
    case h_1 e outcome =>
      rw [outcome] at shorter
      cases found
      exact shorter
    case h_2 => cases found
  case isFalse => cases found

end Cursor

namespace Reading

theorem length_rest_readFactor_lt {stack : List (Group α)} {group : Group α} {c : Cursor}
    {r : Reading α} (next : readFactor stack group c = .next r) :
    r.cursor.rest.length < c.rest.length := by
  have signs := c.length_rest_signs_le
  rw [readFactor] at next
  split at next
  case h_1 d opening =>
    have := Cursor.length_rest_eat_lt opening
    cases next
    simp only [cursor]; omega
  case h_2 d other =>
    have before := c.signs.2.length_rest_eat_le '('
    rw [other] at before
    split at next
    case h_1 value e literal =>
      have := Cursor.length_rest_signedNumber_lt literal
      cases next
      simp only [cursor] at *; omega
    case h_2 => cases next

theorem length_rest_readBehind_lt {stack : List (Group α)} {group : Group α} {value : α}
    {c : Cursor} {r : Reading α} (next : readBehind stack group value c = .next r) :
    r.cursor.rest.length < c.rest.length := by
  rw [readBehind] at next
  split at next
  case h_1 op d found => cases next; exact Cursor.length_rest_operator_lt found
  case h_2 d other =>
    have before := c.length_rest_operator_le
    rw [other] at before
    split at next
    case h_1 => cases next
    case h_2 outer stack =>
      split at next
      case h_1 e closing =>
        have := Cursor.length_rest_eat_lt closing
        cases next
        simp only [cursor] at *; omega
      case h_2 => cases next

/-- Every step leaves less of the text. -/
theorem length_rest_step_lt {r s : Reading α} (next : r.step = .next s) :
    s.cursor.rest.length < r.cursor.rest.length := by
  cases r with
  | factor => exact length_rest_readFactor_lt next
  | behind => exact length_rest_readBehind_lt next

/-- Steps until the reading stops. -/
def run (r : Reading α) : Except ParseError α × Cursor :=
  match _next : r.step with
  | .next s => run s
  | .stop outcome c => (outcome, c)
termination_by r.cursor.rest.length
decreasing_by exact length_rest_step_lt _next

end Reading

/-- The value of the expression at the cursor with the cursor behind it, or the first error with the
cursor where the reading stopped. -/
def Cursor.expression (c : Cursor) : Except ParseError α × Cursor :=
  (Reading.factor [] (.opened false) c).run

/-- The value of a text, separators apart, that is an expression as a whole. -/
def evaluate (t : Text) : Except ParseError α :=
  match (Cursor.start (Text.strip t)).expression with
  | (.ok value, c) =>
    if c.atEnd then .ok value else .error (.unexpectedCharacter c.pos c.char)
  | (.error error, _) => .error error

end Calculator
