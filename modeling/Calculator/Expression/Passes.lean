import Calculator.Expression.Evaluate

/-!
An expression can be read in loops alone, one character in each pass of the innermost ones. Here
every loop is given up when it has made the passes it is allowed, which a bound fixes from the
number of characters that are left where the loop begins.
-/

namespace Calculator

/-- How a pass of a loop ends. -/
inductive Pass (σ β : Type) where
  | again (state : σ)
  | leave (result : β)

/-- The result with which a loop is left; none if more passes are needed than are allowed, in the
loop itself or in one within a pass. -/
def Pass.loop {σ β : Type} (pass : σ → Option (Pass σ β)) : (passes : Nat) → σ → Option β
  | 0, _ => none
  | passes + 1, s =>
    match pass s with
    | none => none
    | some (.again s) => loop pass passes s
    | some (.leave result) => some result

namespace Bounded

open Cursor (isNumeric)

/-- The head of the loop over the factors. -/
structure Level (α : Type) where
  stack : List (Group α)
  group : Group α
  cursor : Cursor

/-- The head of the loop that closes groups, with the value that the group takes next. -/
structure Closing (α : Type) extends Level α where
  value : α

/-- Passes one character of a class. -/
def runPass (p : Char → Bool) (c : Cursor) : Option (Pass Cursor Cursor) :=
  some (if c.char.any p then .again c.advance else .leave c)

variable (bound : Nat → Nat)

/-- Passes the longest run of characters of a class, as `Cursor.skip` does. -/
def skip (p : Char → Bool) (c : Cursor) : Option Cursor :=
  Pass.loop (runPass p) (bound c.rest.length) c

def eat (c : Cursor) (expected : Char) : Option (Bool × Cursor) :=
  (skip bound (· = ' ') c).map fun d =>
    if d.char = some expected then (true, d.advance) else (false, d)

/-- Passes one sign, with the spaces before it. -/
def signsPass : Bool × Cursor → Option (Pass (Bool × Cursor) (Bool × Cursor))
  | (odd, c) => do
    match ← eat bound c '+' with
    | (true, d) => some (.again (odd, d))
    | (false, d) =>
      match ← eat bound d '-' with
      | (true, e) => some (.again (!odd, e))
      | (false, e) => some (.leave (odd, e))

def signs (c : Cursor) : Option (Bool × Cursor) :=
  Pass.loop (signsPass bound) (bound c.rest.length) (false, c)

/-- The first of the operators that is found. -/
def operatorAmong : List Operator → Cursor → Option (Option Operator × Cursor)
  | [], c => some (none, c)
  | op :: ops, c => do
    match ← eat bound c op.symbol with
    | (true, d) => some (some op, d)
    | (false, d) => operatorAmong ops d

def operator (c : Cursor) : Option (Option Operator × Cursor) :=
  operatorAmong bound [.multiply, .divide, .add, .subtract] c

variable {α : Type} [Arithmetic α]

def number (c : Cursor) : Option (Except ParseError α × Cursor) :=
  (skip bound isNumeric c).map fun d =>
    let literal := (c.text.take d.pos).drop c.pos
    match Arithmetic.literal literal with
    | some value => (.ok value, d)
    | none => (.error (.invalidNumberLiteral literal c.pos), d)

/-- Leads to the next level, or to the outcome of the whole reading. -/
def closingPass (s : Closing α) :
    Option (Pass (Closing α) (Pass (Level α) (Except ParseError α × Cursor))) := do
  let group := s.group.addFactor s.value
  match ← operator bound s.cursor with
  | (some op, d) => some (.leave (.again ⟨s.stack, group.addOperator op, d⟩))
  | (none, d) =>
    match s.stack with
    | [] => some (.leave (.leave (.ok group.result, d)))
    | outer :: stack =>
      match ← eat bound d ')' with
      | (true, e) => some (.again ⟨⟨stack, outer, e⟩, group.signed group.result⟩)
      | (false, e) => some (.leave (.leave (.error (.mismatchedParentheses e.pos e.char), e)))

/-- Reads the signs with a parenthesis or a literal behind them, and closes the groups behind a
literal. -/
def levelPass (s : Level α) : Option (Pass (Level α) (Except ParseError α × Cursor)) := do
  let (odd, c) ← signs bound s.cursor
  match ← eat bound c '(' with
  | (true, d) => some (.again ⟨s.group :: s.stack, .opened odd, d⟩)
  | (false, d) =>
    if d.char.any isNumeric then
      match ← number bound d with
      | (.ok value, e) =>
        Pass.loop (closingPass bound) (bound e.rest.length)
          ⟨⟨s.stack, s.group, e⟩, if odd then Arithmetic.negate value else value⟩
      | (.error error, e) => some (.leave (.error error, e))
    else some (.leave (.error (.unexpectedCharacter d.pos d.char), d))

/-- The outermost loop, in which each pass reads one factor or opens one group. -/
def expression (c : Cursor) : Option (Except ParseError α × Cursor) :=
  Pass.loop (levelPass bound) (bound c.rest.length) ⟨[], .opened false, c⟩

end Bounded

end Calculator
