import Calculator.Arithmetic
import Calculator.Expression.Cursor
import Calculator.Expression.Error

namespace Calculator.Cursor

/-- Whether an odd number of minus signs is in a run of signs. -/
def negates (run : Text) : Bool :=
  run.count '-' % 2 = 1

/-- The unary signs at the cursor, among which spaces do not count. -/
def signs (c : Cursor) : Bool × Cursor :=
  let isSign := fun a => a = ' ' || a = '+' || a = '-'
  (negates (c.run isSign), c.skip isSign)

/-- The operator at the cursor, spaces before it apart. -/
def operator (c : Cursor) : Option Operator × Cursor :=
  match c.skipSpaces.char.bind Operator.ofChar? with
  | some op => (some op, c.skipSpaces.advance)
  | none => (none, c.skipSpaces)

/-- Digits and the point. -/
def isNumeric (a : Char) : Bool :=
  a.isDigit || a = '.'

/-- The number at the cursor. A run of digits and points that is no number is an error, and the
cursor is behind it all the same. -/
def number {α : Type} [Arithmetic α] (c : Cursor) : Except ParseError α × Cursor :=
  let literal := c.run isNumeric
  match Arithmetic.literal literal with
  | some value => (.ok value, c.skip isNumeric)
  | none => (.error (.invalidNumberLiteral literal c.pos), c.skip isNumeric)

theorem length_rest_signs_le (c : Cursor) : c.signs.2.rest.length ≤ c.rest.length :=
  c.length_rest_skip_le _

theorem length_rest_operator_lt {c d : Cursor} {op : Operator}
    (found : c.operator = (some op, d)) : d.rest.length < c.rest.length := by
  have skipped := c.length_rest_skipSpaces_le
  rw [operator] at found
  split at found
  case h_1 symbol =>
    cases found
    obtain ⟨a, here, _⟩ := Option.bind_eq_some_iff.1 symbol
    have := length_rest_advance_lt here
    omega
  case h_2 => cases found

theorem length_rest_operator_le (c : Cursor) : c.operator.2.rest.length ≤ c.rest.length := by
  cases outcome : c.operator with | mk found d =>
  cases found with
  | some op => exact Nat.le_of_lt (length_rest_operator_lt outcome)
  | none =>
    rw [operator] at outcome
    split at outcome
    · cases outcome
    · cases outcome; exact c.length_rest_skipSpaces_le

theorem length_rest_number_lt {α : Type} [Arithmetic α] {c : Cursor}
    (here : c.char.any isNumeric = true) :
    (number (α := α) c).2.rest.length < c.rest.length := by
  have shorter : (c.skip isNumeric).rest.length < c.rest.length := by
    rw [rest_skip]
    cases left : c.rest with
    | nil => simp [char, left] at here
    | cons a t =>
      have numeric : isNumeric a = true := by simpa [char, left] using here
      rw [List.dropWhile_cons, if_pos numeric, List.length_cons]
      exact Nat.lt_succ_of_le (List.dropWhile_suffix isNumeric).length_le
  rw [number]
  split <;> exact shorter

end Calculator.Cursor
