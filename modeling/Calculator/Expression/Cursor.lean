import Calculator.Text.Blank

namespace Calculator

/-- A place in a text, which only moves forward. It may lie past the end of the text, where no
character is left. -/
structure Cursor where
  text : Text
  pos : Nat
  /-- What is left of the text from the place on. -/
  rest : Text
  rest_eq : rest = text.drop pos
deriving DecidableEq

namespace Cursor

/-- The cursor before the whole text. -/
def start (t : Text) : Cursor := ⟨t, 0, t, rfl⟩

/-- The character under the cursor. -/
def char (c : Cursor) : Option Char := c.rest.head?

/-- Whether no character is left. -/
def atEnd (c : Cursor) : Bool := c.rest.isEmpty

def forward (c : Cursor) (count : Nat) : Cursor where
  text := c.text
  pos := c.pos + count
  rest := c.rest.drop count
  rest_eq := by rw [c.rest_eq, List.drop_drop]

def advance (c : Cursor) : Cursor := c.forward 1

/-- The longest run of characters of a class. -/
def run (c : Cursor) (p : Char → Bool) : Text := c.rest.takeWhile p

/-- Moves behind the longest run of characters of a class. -/
def skip (c : Cursor) (p : Char → Bool) : Cursor := c.forward (c.run p).length

/-- Spaces that are left in the text do not count. -/
def skipSpaces (c : Cursor) : Cursor := c.skip (· = ' ')

/-- Moves behind a character if it comes next, spaces before it apart. -/
def eat (c : Cursor) (expected : Char) : Bool × Cursor :=
  if c.skipSpaces.char = some expected then (true, c.skipSpaces.advance) else (false, c.skipSpaces)

/-- A text of one character is eaten as that character, another text is never found. -/
def eatText (c : Cursor) : Text → Bool × Cursor
  | [expected] => c.eat expected
  | _ => (false, c.skipSpaces)

theorem char_eq (c : Cursor) : c.char = c.text[c.pos]? := by
  rw [char, c.rest_eq, List.head?_drop]

@[ext] theorem ext {c d : Cursor} (text : c.text = d.text) (pos : c.pos = d.pos) : c = d := by
  cases c with | mk t p r e => cases d with | mk t' p' r' e' =>
    cases text; cases pos; cases e; cases e'; rfl

@[simp] theorem text_start (t : Text) : (start t).text = t := rfl

@[simp] theorem pos_start (t : Text) : (start t).pos = 0 := rfl

@[simp] theorem rest_start (t : Text) : (start t).rest = t := rfl

@[simp] theorem text_forward (c : Cursor) (n : Nat) : (c.forward n).text = c.text := rfl

@[simp] theorem pos_forward (c : Cursor) (n : Nat) : (c.forward n).pos = c.pos + n := rfl

@[simp] theorem rest_forward (c : Cursor) (n : Nat) : (c.forward n).rest = c.rest.drop n := rfl

@[simp] theorem forward_zero (c : Cursor) : c.forward 0 = c := by
  ext1 <;> simp

theorem forward_forward (c : Cursor) (m n : Nat) :
    (c.forward m).forward n = c.forward (m + n) := by
  ext1 <;> simp [Nat.add_assoc]

theorem rest_skip (c : Cursor) (p : Char → Bool) : (c.skip p).rest = c.rest.dropWhile p := by
  rw [skip, rest_forward, run]
  induction c.rest with
  | nil => rfl
  | cons a t ih => by_cases inside : p a <;> simp [inside, ih]

theorem run_append_rest_skip (c : Cursor) (p : Char → Bool) :
    c.run p ++ (c.skip p).rest = c.rest := by
  rw [rest_skip, run, List.takeWhile_append_dropWhile]

theorem length_rest_skip_le (c : Cursor) (p : Char → Bool) :
    (c.skip p).rest.length ≤ c.rest.length := by
  simp [skip]

theorem length_rest_skipSpaces_le (c : Cursor) : c.skipSpaces.rest.length ≤ c.rest.length :=
  c.length_rest_skip_le _

theorem length_rest_advance_lt {c : Cursor} {a : Char} (here : c.char = some a) :
    c.advance.rest.length < c.rest.length := by
  cases left : c.rest with
  | nil => simp [char, left] at here
  | cons b t => simp [advance, left]

theorem length_rest_eat_le (c : Cursor) (expected : Char) :
    (c.eat expected).2.rest.length ≤ c.rest.length := by
  have skipped := c.length_rest_skipSpaces_le
  rw [eat]
  split
  case isTrue here => have := length_rest_advance_lt here; simp only; omega
  case isFalse => exact skipped

/-- A character that is eaten leaves less of the text. -/
theorem length_rest_eat_lt {c d : Cursor} {expected : Char} (found : c.eat expected = (true, d)) :
    d.rest.length < c.rest.length := by
  have skipped := c.length_rest_skipSpaces_le
  rw [eat] at found
  split at found
  case isTrue here => cases found; have := length_rest_advance_lt here; omega
  case isFalse => cases found

end Cursor

end Calculator
