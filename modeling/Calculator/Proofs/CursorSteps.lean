import Calculator.Expression.Step
import Calculator.Proofs.Moves

namespace Calculator.Cursor

variable {α : Type} {c d : Cursor} {s : Step} {outcome : Outcome α} {passed : Text}

/-- The step has found nothing of what it looks for in the text that it has passed. -/
def Step.Idle : Step → Outcome α → (passed : Text) → Prop
  | .eat _, .answer false, _ => True
  | .signs, .answer false, passed => '+' ∉ passed ∧ '-' ∉ passed
  | .operator, .operator none, _ => True
  | _, _, _ => False

/-- What holds between the cursors before and behind a step. -/
structure Step.Keeps (s : Step) (c : Cursor) (outcome : Outcome α) (d : Cursor) : Prop where
  text_eq : d.text = c.text
  char_eq : d.char = d.text[d.pos]?
  atEnd_iff : d.atEnd = true ↔ d.char = none
  pos_le : c.pos ≤ d.pos
  /-- Only an advance moves behind the end of the text. -/
  pos_le_max : s ≠ .advance → d.pos ≤ max c.text.length c.pos
  /-- What finds nothing moves over spaces. -/
  idle : s ≠ .advance → ∃ passed, Spans c passed d ∧ (s.Idle outcome passed → ∀ a ∈ passed, a = ' ')
  /-- A literal ends where its run of digits and points ends, be it a number or not. -/
  number : s = .number → Spans c (c.run isNumeric) d ∧ d.char.any isNumeric = false

theorem atEnd_iff_char (c : Cursor) : c.atEnd = true ↔ c.char = none := by
  rw [atEnd, List.isEmpty_iff, char, List.head?_eq_none_iff]

/-- Behind a run there is no character of its class. -/
theorem char_skip_any (c : Cursor) (p : Char → Bool) : (c.skip p).char.any p = false := by
  cases here : (c.skip p).char with
  | none => rfl
  | some a => exact eq_false_of_char_skip here

/-- A step that passes what it reads. -/
theorem Step.Keeps.of_spans (spans : Spans c passed d)
    (idle : s.Idle outcome passed → ∀ a ∈ passed, a = ' ')
    (number : s = .number → d = c.skip isNumeric) : s.Keeps c outcome d where
  text_eq := spans.text_eq
  char_eq := d.char_eq
  atEnd_iff := d.atEnd_iff_char
  pos_le := by
    rw [spans.pos_eq]
    exact Nat.le_add_right _ _
  pos_le_max _ := spans.pos_le_max
  idle _ := ⟨passed, spans, idle⟩
  number isNumber := by
    obtain rfl := number isNumber
    exact ⟨.of_run c isNumeric, c.char_skip_any isNumeric⟩

theorem spans_skipSpaces (c : Cursor) :
    Spans c (c.run (· = ' ')) c.skipSpaces ∧ ∀ a ∈ c.run (· = ' '), a = ' ' :=
  ⟨.of_run c _, fun _ member => by simpa using of_mem_run member⟩

/-- A text of any other length than one is looked for in vain, at the cost of the spaces. -/
theorem keeps_eatText (c : Cursor) (expected : Text) :
    (Step.eat expected).Keeps c (.answer (α := α) (c.eatText expected).1)
      (c.eatText expected).2 := by
  obtain ⟨spans, spaces⟩ := c.spans_skipSpaces
  have other {d : Cursor} (isNumber : Step.eat expected = .number) : d = c.skip isNumeric := by
    cases isNumber
  have missing : (Step.eat expected).Keeps c (.answer (α := α) false) c.skipSpaces :=
    .of_spans spans (fun _ => spaces) other
  rcases expected with _ | ⟨a, _ | ⟨_, _⟩⟩
  · exact missing
  · rw [eatText, eat]
    by_cases here : c.skipSpaces.char = some a
    · rw [if_pos here]
      exact .of_spans (spans.trans (.of_char here)) False.elim other
    · rw [if_neg here]
      exact missing
  · exact missing

theorem keeps_signs (c : Cursor) :
    Step.signs.Keeps c (.answer (α := α) c.signs.1) c.signs.2 := by
  refine .of_spans (.of_run c fun a => a = ' ' || a = '+' || a = '-')
    (fun idle a member => ?_) nofun
  have sign : (a = ' ' ∨ a = '+') ∨ a = '-' := by simpa using of_mem_run member
  cases odd : c.signs.1 with
  | true =>
    rw [odd] at idle
    cases idle
  | false =>
    rw [odd] at idle
    rcases sign with (space | rfl) | rfl
    · exact space
    · exact absurd member idle.1
    · exact absurd member idle.2

/-- Where no operator is found, nothing but spaces has been passed. -/
theorem keeps_operator (c : Cursor) :
    Step.operator.Keeps c (.operator (α := α) c.operator.1) c.operator.2 := by
  obtain ⟨spans, spaces⟩ := c.spans_skipSpaces
  by_cases found : ∃ op, c.skipSpaces.char = some (Operator.symbol op)
  · obtain ⟨op, here⟩ := found
    rw [operator_eq_some rfl here]
    exact .of_spans (spans.trans (.of_char here)) nofun nofun
  · rw [operator_eq_none rfl (not_exists.1 found)]
    exact .of_spans spans (fun _ => spaces) nofun

variable [Arithmetic α]

theorem keeps_number (c : Cursor) :
    Step.number.Keeps c (.ofExcept (number (α := α) c).1) (number (α := α) c).2 := by
  rw [snd_number]
  exact .of_spans (.of_run c isNumeric) nofun fun _ => rfl

/-- The expression in its turn passes what it reads, and where it fails it stays within the text. -/
theorem keeps_expression (c : Cursor) :
    Step.expression.Keeps c (.ofExcept (expression (α := α) c).1) (expression (α := α) c).2 := by
  obtain ⟨u, spans⟩ := (Reading.factor (α := α) [] (.opened false) c).exists_spans_run
  exact .of_spans spans nofun nofun

/-- All steps but the advance read what they pass, so they stay within the text or where they are
behind its end. -/
theorem keeps_step (c : Cursor) (s : Step) :
    s.Keeps c (c.step (α := α) s).1 (c.step (α := α) s).2 := by
  cases s with
  | advance =>
    exact ⟨rfl, char_eq _, atEnd_iff_char _, Nat.le_succ _, fun other => absurd rfl other,
      fun other => absurd rfl other, nofun⟩
  | eat expected => exact c.keeps_eatText expected
  | signs => exact c.keeps_signs
  | operator => exact c.keeps_operator
  | number => exact c.keeps_number
  | expression => exact c.keeps_expression

/-- From any cursor, so from the start of any text with its separators or without, each step of a
sequence is taken from the cursor where the one before has left off, whatever has failed before. The
text stays, the character is the one at the place, the place has not gone back, and it has not gone
behind the end but by an advance. -/
theorem keeps_of_trace (c : Cursor) {steps : List Step} {i : Nat} (taken : steps[i]? = some s) :
    let reached : List (Outcome α × Cursor) := c.trace steps
    ∃ (b : Cursor) (outcome : Outcome α) (d : Cursor),
      (c :: reached.map Prod.snd)[i]? = some b ∧ reached[i]? = some (outcome, d) ∧
        d.text = c.text ∧ s.Keeps b outcome d := by
  intro reached
  induction steps generalizing c i with
  | nil => cases taken
  | cons first steps ih =>
    have keeps := c.keeps_step (α := α) first
    cases i with
    | zero =>
      cases taken
      exact ⟨c, _, _, rfl, rfl, keeps.text_eq, keeps⟩
    | succ i =>
      obtain ⟨b, outcome, d, before, behind, text, later⟩ := ih (c.step (α := α) first).2 taken
      exact ⟨b, outcome, d, before, behind, text.trans keeps.text_eq, later⟩

/-- A reading fails at a literal, the cursor is moved behind the end, and a character is looked for
there. -/
theorem keeps_of_trace_behind_failure :
    let c := start " - (2 * 1..2  ".toList
    let steps : List Step := [.signs, .expression, .operator, .advance, .advance, .eat [')']]
    let reached : List (Outcome Float × Cursor) := c.trace steps
    steps[5]? = some (.eat [')']) ∧
      ∃ (b : Cursor) (outcome : Outcome Float) (d : Cursor),
        (c :: reached.map Prod.snd)[5]? = some b ∧ reached[5]? = some (outcome, d) ∧
          d.text = c.text ∧ (Step.eat [')']).Keeps b outcome d :=
  ⟨rfl, keeps_of_trace _ rfl⟩

end Calculator.Cursor
