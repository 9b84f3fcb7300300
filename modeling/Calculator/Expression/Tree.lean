import Calculator.Expression.Grammar

namespace Calculator

/-- An expression without its parentheses. -/
inductive Tree where
  | literal (text : Text)
  | sign (negative : Bool) (operand : Tree)
  | binary (left : Tree) (op : Operator) (right : Tree)
deriving DecidableEq, Repr

namespace Tree

/-- Every literal is a number. -/
def Plain : Tree → Prop
  | literal text => Decimal.IsPlain text
  | sign _ operand => operand.Plain
  | binary left _ right => left.Plain ∧ right.Plain

/-- The level of the text of a tree. -/
def level : Tree → Level
  | literal _ => .factor
  | sign .. => .factor
  | binary _ op _ => op.level

/-- The value from the leaves up; none where a literal has no value. -/
def value? {α : Type} [Arithmetic α] : Tree → Option α
  | literal text => Arithmetic.literal text
  | sign negative operand => do
    let x ← operand.value?
    return if negative then Arithmetic.negate x else x
  | binary left op right => do
    let x ← left.value?
    let y ← right.value?
    return Arithmetic.apply x op y

/-- A text at its own level, in parentheses where the place demands a tighter one. -/
def enclose (place own : Level) (t : Text) : Text :=
  if place.rank ≤ own.rank then t else '(' :: t ++ [')']

/-- The text of a tree at its own level, with parentheses only where an operand binds less tightly
than its place demands. -/
def write : Tree → Text
  | literal text => text
  | sign negative operand =>
    (if negative then '-' else '+') :: enclose .factor operand.level operand.write
  | binary left op right =>
    enclose op.level left.level left.write ++
      op.symbol :: enclose op.operandLevel right.level right.write

theorem derives_enclose {place own : Level} {t : Text} (derives : Derives own t) :
    Derives place (enclose place own t) := by
  rw [enclose]
  split
  case isTrue tight => exact derives.weaken tight
  case isFalse =>
    exact (Derives.group (derives.weaken (Nat.zero_le _))).weaken (by cases place <;> decide)

/-- What is written is an expression of the grammar. -/
theorem derives_write {tree : Tree} (plain : tree.Plain) : Derives tree.level tree.write := by
  induction tree with
  | literal text => exact .number plain
  | sign negative operand ih =>
    exact .sign (by cases negative <;> simp) (derives_enclose (ih plain))
  | binary left op right ihl ihr =>
    exact .binary op (derives_enclose (ihl plain.1)) (derives_enclose (ihr plain.2))

end Tree

end Calculator
