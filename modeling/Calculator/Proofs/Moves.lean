import Calculator.Expression.Evaluate
import Mathlib.Data.List.TakeWhile

/-!
A step of the reading looks at the character behind a run of signs, or behind spaces. `Reading.Turn`
says all that a step can do, and what every turn keeps holds where the run stops. On a text without
spaces `Reading.Move` tells the signs of a turn, and there are no spaces to be skipped.
-/

namespace Calculator

/-- A number behind signs, an odd number of which are minus signs or not. -/
def Arithmetic.withSign {α : Type} [Arithmetic α] (odd : Bool) (value : α) : α :=
  if odd then negate value else value

/-! ## Scanning a text without spaces -/

namespace Cursor

/-- There are no spaces in the text. -/
def Spaceless (c : Cursor) : Prop := ' ' ∉ c.text

theorem spaceless_start_strip (t : Text) : (start (Text.strip t)).Spaceless := by
  intro member
  have separator := (Text.mem_strip.1 member).2
  exact absurd separator (by decide)

theorem mem_text_of_mem_rest {c : Cursor} {a : Char} (member : a ∈ c.rest) : a ∈ c.text := by
  rw [c.rest_eq] at member
  exact List.mem_of_mem_drop member

theorem rest_eq_cons_iff {c : Cursor} {a : Char} :
    c.char = some a ↔ c.rest = a :: c.advance.rest := by
  rw [char, advance, rest_forward]
  cases c.rest with
  | nil => simp
  | cons b t => simp

/-- A run is not shorter than it can be. -/
theorem eq_false_of_char_skip {c : Cursor} {p : Char → Bool} {a : Char}
    (here : (c.skip p).char = some a) : p a = false := by
  have stop := List.head?_dropWhile_not p c.rest
  rw [← rest_skip, ← char, here] at stop
  exact stop

theorem run_ne_nil {c : Cursor} {p : Char → Bool} (here : c.char.any p = true) : c.run p ≠ [] := by
  rw [char] at here
  rw [run]
  cases left : c.rest with
  | nil => simp [left] at here
  | cons a t =>
    have inside : p a = true := by simpa [left] using here
    simp [inside]

theorem run_eq_nil {c : Cursor} {p : Char → Bool} (stop : c.char.any p = false) : c.run p = [] := by
  rw [run]
  cases left : c.rest with
  | nil => rfl
  | cons a t =>
    have other : p a = false := by simpa [char, left] using stop
    simp [other]

theorem skip_eq_self {c : Cursor} {p : Char → Bool} (stop : c.char.any p = false) :
    c.skip p = c := by
  rw [skip, run_eq_nil stop]
  exact c.forward_zero

theorem of_mem_run {c : Cursor} {p : Char → Bool} {a : Char} (member : a ∈ c.run p) : p a = true :=
  List.mem_takeWhile_imp member

/-- An operator is found by its symbol. -/
theorem bind_ofChar?_eq_some_iff {here : Option Char} {op : Operator} :
    here.bind Operator.ofChar? = some op ↔ here = some op.symbol := by
  cases here with
  | none => simp
  | some a => simp [Operator.ofChar?_eq_some_iff]

theorem operator_unique {here : Option Char} {op op' : Operator} (symbol : here = some op.symbol)
    (symbol' : here = some op'.symbol) : op' = op :=
  Option.some.inj ((bind_ofChar?_eq_some_iff.2 symbol').symm.trans
    (bind_ofChar?_eq_some_iff.2 symbol))

theorem bind_ofChar?_eq_none_iff {here : Option Char} :
    here.bind Operator.ofChar? = none ↔ ∀ op, here ≠ some (Operator.symbol op) := by
  rw [Option.eq_none_iff_forall_ne_some]
  exact forall_congr' fun op => not_congr bind_ofChar?_eq_some_iff

theorem ne_symbol_of_closing {here : Option Char} (closing : here = some ')') (op : Operator) :
    here ≠ some op.symbol := by
  rw [closing]
  cases op <;> decide

theorem ne_opening_of_numeric {here : Option Char} (numeric : here.any isNumeric = true) :
    here ≠ some '(' := by
  rintro rfl
  exact absurd numeric (by decide)

/-- A literal is passed, be it a number or not. -/
theorem snd_number {α : Type} [Arithmetic α] (c : Cursor) :
    (number (α := α) c).2 = c.skip isNumeric := by
  cases value : (Arithmetic.literal (c.run isNumeric) : Option α) <;> simp only [number, value]

section

variable {c d : Cursor} {odd : Bool}

theorem skipSpaces_eq_self (noSpace : c.char ≠ some ' ') : c.skipSpaces = c := by
  refine skip_eq_self ?_
  cases here : c.char with
  | none => rfl
  | some a =>
    have other : a ≠ ' ' := fun space => noSpace (space ▸ here)
    simpa using other

/-- On a character that is no space, only the character counts. -/
theorem eat_eq (noSpace : c.char ≠ some ' ') (expected : Char) :
    c.eat expected = if c.char = some expected then (true, c.advance) else (false, c) := by
  rw [eat, skipSpaces_eq_self noSpace]

/-- Behind signs there is no space. -/
theorem char_ne_of_signs (signs : c.signs = (odd, d)) : d.char ≠ some ' ' := by
  obtain rfl : c.signs.2 = d := by rw [signs]
  intro space
  exact absurd (eq_false_of_char_skip space) (by decide)

theorem char_ne_of_skipSpaces (spaces : c.skipSpaces = d) : d.char ≠ some ' ' := by
  subst spaces
  intro space
  exact absurd (eq_false_of_char_skip space) (by decide)

/-- An operator is found behind spaces. -/
theorem operator_eq_some {op : Operator} (spaces : c.skipSpaces = d)
    (here : d.char = some op.symbol) : c.operator = (some op, d.advance) := by
  have found := bind_ofChar?_eq_some_iff.2 here
  rw [operator, spaces]
  simp only [found]

theorem operator_eq_none (spaces : c.skipSpaces = d)
    (noOperator : ∀ op, d.char ≠ some (Operator.symbol op)) : c.operator = (none, d) := by
  have missing := bind_ofChar?_eq_none_iff.2 noOperator
  rw [operator, spaces]
  simp only [missing]

theorem Spaceless.skipSpaces_eq (spaceless : c.Spaceless) : c.skipSpaces = c := by
  refine skipSpaces_eq_self fun here => spaceless (mem_text_of_mem_rest ?_)
  rw [rest_eq_cons_iff.1 here]
  exact List.mem_cons_self

end

/-- The text `t` stands between the cursors `c` and `d`. -/
structure Spans (c : Cursor) (t : Text) (d : Cursor) : Prop where
  rest_eq : c.rest = t ++ d.rest
  forward : d = c.forward t.length

namespace Spans

variable {c d e : Cursor} {a : Char} {s t : Text}

theorem text_eq (spans : Spans c t d) : d.text = c.text := by
  rw [spans.forward, text_forward]

theorem pos_eq (spans : Spans c t d) : d.pos = c.pos + t.length := by
  rw [spans.forward, pos_forward]

theorem length_rest (spans : Spans c t d) : c.rest.length = t.length + d.rest.length := by
  rw [spans.rest_eq, List.length_append]

/-- What is read goes behind the end of the text no further than before. -/
theorem pos_le_max (spans : Spans c t d) : d.pos ≤ max c.text.length c.pos := by
  have left := spans.length_rest
  rw [c.rest_eq, List.length_drop] at left
  rw [spans.pos_eq]
  omega

/-- What is read is inside the text. -/
theorem pos_le_length (spans : Spans c t d) (inside : c.pos ≤ c.text.length) :
    d.pos ≤ c.text.length :=
  spans.pos_le_max.trans (Nat.max_le.2 ⟨Nat.le_refl _, inside⟩)

/-- The text between two cursors is cut out of the text by their places. -/
theorem drop_take_eq (spans : Spans c t d) : (c.text.take d.pos).drop c.pos = t := by
  rw [List.drop_take, ← c.rest_eq, spans.rest_eq, spans.pos_eq, Nat.add_sub_cancel_left,
    List.take_left]

theorem refl (c : Cursor) : Spans c [] c := ⟨rfl, c.forward_zero.symm⟩

/-- Texts that follow each other are one text. -/
theorem trans (first : Spans c s d) (second : Spans d t e) : Spans c (s ++ t) e := by
  refine ⟨?_, ?_⟩
  · rw [first.rest_eq, second.rest_eq, List.append_assoc]
  · rw [second.forward, first.forward, forward_forward, List.length_append]

theorem of_char (here : c.char = some a) : Spans c [a] c.advance :=
  ⟨rest_eq_cons_iff.1 here, rfl⟩

theorem of_run (c : Cursor) (p : Char → Bool) : Spans c (c.run p) (c.skip p) :=
  ⟨(c.run_append_rest_skip p).symm, rfl⟩

theorem cons_iff : Spans c (a :: t) d ↔ c.char = some a ∧ Spans c.advance t d := by
  constructor
  · intro spans
    have here : c.char = some a := by rw [char, spans.rest_eq]; rfl
    refine ⟨here, ?_, ?_⟩
    · exact List.cons.inj ((rest_eq_cons_iff.1 here).symm.trans spans.rest_eq) |>.2
    · rw [spans.forward, advance, forward_forward, List.length_cons, Nat.add_comm]
  · rintro ⟨here, spans⟩
    exact (of_char here).trans spans

/-- There is a cursor between two texts. -/
theorem append_iff : Spans c (s ++ t) d ↔ ∃ m, Spans c s m ∧ Spans m t d := by
  constructor
  · intro spans
    have whole : c.rest = s ++ (t ++ d.rest) := by rw [spans.rest_eq, List.append_assoc]
    have rest : (c.forward s.length).rest = t ++ d.rest := by
      rw [rest_forward, whole, List.drop_left]
    refine ⟨c.forward s.length, ⟨?_, rfl⟩, ⟨rest, ?_⟩⟩
    · rw [rest, whole]
    · rw [spans.forward, forward_forward, List.length_append]
  · rintro ⟨m, first, second⟩
    exact first.trans second

end Spans

theorem exists_spans_of_signs {c d : Cursor} {odd : Bool} (signs : c.signs = (odd, d)) :
    ∃ u, Spans c u d := by
  obtain rfl : c.signs.2 = d := by rw [signs]
  exact ⟨_, .of_run c _⟩

theorem exists_spans_of_skipSpaces {c d : Cursor} (spaces : c.skipSpaces = d) :
    ∃ u, Spans c u d := by
  subst spaces
  exact ⟨_, .of_run c _⟩

/-- A run of signs, behind which there is no sign. -/
structure SignRun (c : Cursor) (run : Text) (d : Cursor) : Prop extends Spans c run d where
  signs : ∀ a ∈ run, a = '+' ∨ a = '-'
  stop : d.char ≠ some '+' ∧ d.char ≠ some '-'

theorem SignRun.tail {c d : Cursor} {a : Char} {run : Text} (signs : SignRun c (a :: run) d) :
    c.char = some a ∧ SignRun c.advance run d := by
  obtain ⟨here, spans⟩ := Spans.cons_iff.1 signs.toSpans
  exact ⟨here, spans, fun b member => signs.signs b (.tail a member), signs.stop⟩

@[simp] theorem negates_nil : negates [] = false := rfl

/-- Parities of runs that follow each other add up. -/
theorem negates_append (u v : Text) : negates (u ++ v) = (negates u ^^ negates v) := by
  rw [negates, negates, negates, List.count_append, Nat.add_mod]
  rcases Nat.mod_two_eq_zero_or_one (u.count '-') with even | odd <;>
    rcases Nat.mod_two_eq_zero_or_one (v.count '-') with even' | odd' <;> simp [*]

@[simp] theorem negates_cons_plus (run : Text) : negates ('+' :: run) = negates run :=
  (negates_append ['+'] run).trans (Bool.false_xor _)

@[simp] theorem negates_cons_minus (run : Text) : negates ('-' :: run) = !negates run :=
  (negates_append ['-'] run).trans (Bool.true_xor _)

/-- Without spaces the signs at the cursor are a run of signs. -/
theorem Spaceless.exists_signRun {c : Cursor} (spaceless : c.Spaceless) :
    ∃ run, SignRun c run c.signs.2 ∧ c.signs.1 = negates run := by
  refine ⟨_, ⟨.of_run c fun a => a = ' ' || a = '+' || a = '-', ?signs, ?stop⟩, rfl⟩
  case signs =>
    intro a member
    have sign := of_mem_run member
    have inText := mem_text_of_mem_rest (List.takeWhile_subset _ member)
    have noSpace : a ≠ ' ' := fun space => spaceless (space ▸ inText)
    simpa [noSpace] using sign
  case stop =>
    constructor
    · intro plus
      exact absurd (eq_false_of_char_skip plus) (by decide)
    · intro minus
      exact absurd (eq_false_of_char_skip minus) (by decide)

end Cursor

/-! ## What a step can do -/

/-- The cursor that the step leads to. -/
def Progress.cursor {α : Type} : Progress α → Cursor
  | next r => r.cursor
  | stop _ c => c

namespace Reading

open Cursor

variable {α : Type} [Arithmetic α]

/-- A step from a reading with the progress it makes. -/
inductive Turn : Reading α → Progress α → Prop
  | opening {stack group c odd d} (signs : c.signs = (odd, d)) (here : d.char = some '(') :
      Turn (factor stack group c) (.next (factor (group :: stack) (.opened odd) d.advance))
  | literal {stack group c odd d value} (signs : c.signs = (odd, d))
      (here : d.char.any isNumeric = true)
      (found : Arithmetic.literal (d.run isNumeric) = some value) :
      Turn (factor stack group c)
        (.next (behind stack group (Arithmetic.withSign odd value) (d.skip isNumeric)))
  | noLiteral {stack group c odd d} (signs : c.signs = (odd, d))
      (here : d.char.any isNumeric = true)
      (valueless : (Arithmetic.literal (d.run isNumeric) : Option α) = none) :
      Turn (factor stack group c)
        (.stop (.error (.invalidNumberLiteral (d.run isNumeric) d.pos)) (d.skip isNumeric))
  | noFactor {stack group c odd d} (signs : c.signs = (odd, d)) (noGroup : d.char ≠ some '(')
      (noNumber : d.char.any isNumeric = false) :
      Turn (factor stack group c) (.stop (.error (.unexpectedCharacter d.pos d.char)) d)
  | operator {stack group value c d op} (spaces : c.skipSpaces = d)
      (here : d.char = some (Operator.symbol op)) :
      Turn (behind stack group value c)
        (.next (factor stack ((group.addFactor value).addOperator op) d.advance))
  | result {group value c d} (spaces : c.skipSpaces = d)
      (noOperator : ∀ op, d.char ≠ some (Operator.symbol op)) :
      Turn (behind [] group value c) (.stop (.ok (group.addFactor value).result) d)
  | closing {outer stack group value c d} (spaces : c.skipSpaces = d) (here : d.char = some ')') :
      Turn (behind (outer :: stack) group value c)
        (.next (behind stack outer ((group.addFactor value).signed (group.addFactor value).result)
          d.advance))
  | unclosed {outer stack group value c d} (spaces : c.skipSpaces = d)
      (noOperator : ∀ op, d.char ≠ some (Operator.symbol op)) (noClosing : d.char ≠ some ')') :
      Turn (behind (outer :: stack) group value c)
        (.stop (.error (.mismatchedParentheses d.pos d.char)) d)

variable {r s : Reading α} {p : Progress α}

theorem Turn.step_eq (turn : Turn r p) : r.step = p := by
  cases turn with
  | opening signs here =>
    simp only [step, readFactor, signs, eat_eq (char_ne_of_signs signs), here, ↓reduceIte]
  | @literal stack group c odd d value signs here found =>
    have noGroup := ne_opening_of_numeric here
    simp only [step, readFactor, signs, eat_eq (char_ne_of_signs signs), noGroup, ↓reduceIte,
      signedNumber, here, number, found, Arithmetic.withSign]
  | @noLiteral stack group c odd d signs here valueless =>
    have noGroup := ne_opening_of_numeric here
    simp only [step, readFactor, signs, eat_eq (char_ne_of_signs signs), noGroup, ↓reduceIte,
      signedNumber, here, number, valueless]
  | noFactor signs noGroup noNumber =>
    simp [step, readFactor, signs, eat_eq (char_ne_of_signs signs), noGroup, signedNumber, noNumber]
  | operator spaces here => simp only [step, readBehind, operator_eq_some spaces here]
  | result spaces noOperator => simp only [step, readBehind, operator_eq_none spaces noOperator]
  | closing spaces here =>
    simp only [step, readBehind, operator_eq_none spaces (ne_symbol_of_closing here),
      eat_eq (char_ne_of_skipSpaces spaces), here, ↓reduceIte]
  | unclosed spaces noOperator noClosing =>
    simp only [step, readBehind, operator_eq_none spaces noOperator,
      eat_eq (char_ne_of_skipSpaces spaces), noClosing, ↓reduceIte]

/-- There is a turn from every reading, by cases on what comes next. -/
theorem exists_turn (r : Reading α) : ∃ p, Turn r p := by
  cases r with
  | factor stack group c =>
    obtain ⟨odd, d, signs⟩ : ∃ odd d, c.signs = (odd, d) := ⟨_, _, rfl⟩
    by_cases opening : d.char = some '('
    · exact ⟨_, .opening signs opening⟩
    by_cases numeric : d.char.any isNumeric = true
    · cases literal : (Arithmetic.literal (d.run isNumeric) : Option α) with
      | some value => exact ⟨_, .literal signs numeric literal⟩
      | none => exact ⟨_, .noLiteral signs numeric literal⟩
    · exact ⟨_, .noFactor signs opening (Bool.eq_false_iff.2 numeric)⟩
  | behind stack group value c =>
    obtain ⟨d, spaces⟩ : ∃ d, c.skipSpaces = d := ⟨_, rfl⟩
    by_cases operator : ∃ op, d.char = some (Operator.symbol op)
    · obtain ⟨op, here⟩ := operator
      exact ⟨_, .operator spaces here⟩
    have noOperator := not_exists.1 operator
    cases stack with
    | nil => exact ⟨_, .result spaces noOperator⟩
    | cons outer stack =>
      by_cases closing : d.char = some ')'
      · exact ⟨_, .closing spaces closing⟩
      · exact ⟨_, .unclosed spaces noOperator closing⟩

/-- A step is a turn. -/
theorem turn_step (r : Reading α) : Turn r r.step := by
  obtain ⟨p, turn⟩ := r.exists_turn
  rwa [turn.step_eq]

/-- A step moves forward over the text between two cursors. -/
theorem Turn.exists_spans (turn : Turn r p) : ∃ u, Spans r.cursor u p.cursor := by
  cases turn with
  | opening signs here =>
    obtain ⟨u, spans⟩ := exists_spans_of_signs signs
    exact ⟨_, spans.trans (.of_char here)⟩
  | literal signs =>
    obtain ⟨u, spans⟩ := exists_spans_of_signs signs
    exact ⟨_, spans.trans (.of_run _ isNumeric)⟩
  | noLiteral signs =>
    obtain ⟨u, spans⟩ := exists_spans_of_signs signs
    exact ⟨_, spans.trans (.of_run _ isNumeric)⟩
  | noFactor signs => exact exists_spans_of_signs signs
  | operator spaces here =>
    obtain ⟨u, spans⟩ := exists_spans_of_skipSpaces spaces
    exact ⟨_, spans.trans (.of_char here)⟩
  | result spaces => exact exists_spans_of_skipSpaces spaces
  | closing spaces here =>
    obtain ⟨u, spans⟩ := exists_spans_of_skipSpaces spaces
    exact ⟨_, spans.trans (.of_char here)⟩
  | unclosed spaces => exact exists_spans_of_skipSpaces spaces

theorem Turn.text_eq (turn : Turn r p) : p.cursor.text = r.cursor.text := by
  obtain ⟨u, spans⟩ := turn.exists_spans
  exact spans.text_eq

/-- What every turn keeps holds of the reading from which the run stops. -/
theorem exists_turn_stop (Invariant : Reading α → Prop)
    (kept : ∀ {r s}, Invariant r → Turn r (.next s) → Invariant s) (start : Invariant r) :
    ∃ s, Invariant s ∧ Turn s (.stop r.run.1 r.run.2) := by
  induction r using run.induct with
  | case1 r s next ih =>
    have turn := turn_step r
    rw [next] at turn
    rw [run, next]
    exact ih (kept start turn)
  | case2 r outcome c stop =>
    have turn := turn_step r
    rw [stop] at turn
    rw [run, stop]
    exact ⟨r, start, turn⟩

theorem Turn.run_eq (turn : Turn r (.next s)) : r.run = s.run := by
  rw [run, turn.step_eq]

theorem Turn.run_eq_stop {outcome : Except ParseError α} {c : Cursor}
    (turn : Turn r (.stop outcome c)) : r.run = (outcome, c) := by
  rw [run, turn.step_eq]

/-- A run moves forward to the reading from which it stops. -/
theorem exists_spans_stop (r : Reading α) :
    ∃ u s, Spans r.cursor u s.cursor ∧ Turn s (.stop r.run.1 r.run.2) := by
  have kept {s q : Reading α} (before : ∃ u, Spans r.cursor u s.cursor) (turn : Turn s (.next q)) :
      ∃ u, Spans r.cursor u q.cursor := by
    obtain ⟨u, before⟩ := before
    obtain ⟨v, after⟩ := turn.exists_spans
    exact ⟨_, before.trans after⟩
  obtain ⟨s, ⟨u, before⟩, stop⟩ := exists_turn_stop _ kept ⟨[], .refl r.cursor⟩
  exact ⟨u, s, before, stop⟩

/-- A run stays in its text and does not go back. -/
theorem exists_spans_run (r : Reading α) : ∃ u, Spans r.cursor u r.run.2 := by
  obtain ⟨u, s, before, stop⟩ := r.exists_spans_stop
  obtain ⟨v, after⟩ := stop.exists_spans
  exact ⟨_, before.trans after⟩

/-- A step from a reading with the progress it makes, on a text without spaces. -/
inductive Move : Reading α → Progress α → Prop
  | opening {stack group c run d} (signs : SignRun c run d) (here : d.char = some '(') :
      Move (factor stack group c)
        (.next (factor (group :: stack) (.opened (negates run)) d.advance))
  | literal {stack group c run d value} (signs : SignRun c run d)
      (here : d.char.any isNumeric = true)
      (found : Arithmetic.literal (d.run isNumeric) = some value) :
      Move (factor stack group c)
        (.next (behind stack group (Arithmetic.withSign (negates run) value) (d.skip isNumeric)))
  | noLiteral {stack group c run d} (signs : SignRun c run d)
      (here : d.char.any isNumeric = true)
      (valueless : (Arithmetic.literal (d.run isNumeric) : Option α) = none) :
      Move (factor stack group c)
        (.stop (.error (.invalidNumberLiteral (d.run isNumeric) d.pos)) (d.skip isNumeric))
  | noFactor {stack group c run d} (signs : SignRun c run d) (noGroup : d.char ≠ some '(')
      (noNumber : d.char.any isNumeric = false) :
      Move (factor stack group c) (.stop (.error (.unexpectedCharacter d.pos d.char)) d)
  | operator {stack group value c op} (here : c.char = some (Operator.symbol op)) :
      Move (behind stack group value c)
        (.next (factor stack ((group.addFactor value).addOperator op) c.advance))
  | result {group value c} (noOperator : ∀ op, c.char ≠ some (Operator.symbol op)) :
      Move (behind [] group value c) (.stop (.ok (group.addFactor value).result) c)
  | closing {outer stack group value c} (here : c.char = some ')') :
      Move (behind (outer :: stack) group value c)
        (.next (behind stack outer ((group.addFactor value).signed (group.addFactor value).result)
          c.advance))
  | unclosed {outer stack group value c} (noOperator : ∀ op, c.char ≠ some (Operator.symbol op))
      (noClosing : c.char ≠ some ')') :
      Move (behind (outer :: stack) group value c)
        (.stop (.error (.mismatchedParentheses c.pos c.char)) c)

/-- Without spaces a turn is a move. -/
theorem Turn.move (turn : Turn r p) (spaceless : r.cursor.Spaceless) : Move r p := by
  have signRun {c d : Cursor} {odd : Bool} (spaceless : c.Spaceless) (signs : c.signs = (odd, d)) :
      ∃ run, SignRun c run d ∧ odd = negates run := by
    have found := spaceless.exists_signRun
    rwa [signs] at found
  cases turn with
  | opening signs here =>
    obtain ⟨run, whole, rfl⟩ := signRun spaceless signs
    exact .opening whole here
  | literal signs here found =>
    obtain ⟨run, whole, rfl⟩ := signRun spaceless signs
    exact .literal whole here found
  | noLiteral signs here valueless =>
    obtain ⟨run, whole, rfl⟩ := signRun spaceless signs
    exact .noLiteral whole here valueless
  | noFactor signs noGroup noNumber =>
    obtain ⟨run, whole, rfl⟩ := signRun spaceless signs
    exact .noFactor whole noGroup noNumber
  | operator spaces here =>
    obtain rfl := spaceless.skipSpaces_eq.symm.trans spaces
    exact .operator here
  | result spaces noOperator =>
    obtain rfl := spaceless.skipSpaces_eq.symm.trans spaces
    exact .result noOperator
  | closing spaces here =>
    obtain rfl := spaceless.skipSpaces_eq.symm.trans spaces
    exact .closing here
  | unclosed spaces noOperator noClosing =>
    obtain rfl := spaceless.skipSpaces_eq.symm.trans spaces
    exact .unclosed noOperator noClosing

/-- What every move keeps holds of the reading from which the run stops. -/
theorem exists_stop_of_invariant (Invariant : Reading α → Prop)
    (kept : ∀ {r s}, Invariant r → Move r (.next s) → Invariant s) {r : Reading α}
    (spaceless : r.cursor.Spaceless) (start : Invariant r) :
    ∃ s, Invariant s ∧ Move s (.stop r.run.1 r.run.2) := by
  have both {s q : Reading α} (holds : Invariant s ∧ s.cursor.Spaceless) (turn : Turn s (.next q)) :
      Invariant q ∧ q.cursor.Spaceless := by
    have same : q.cursor.text = s.cursor.text := turn.text_eq
    exact ⟨kept holds.1 (turn.move holds.2), by rw [Cursor.Spaceless, same]; exact holds.2⟩
  obtain ⟨s, ⟨holds, spaceless⟩, stop⟩ := exists_turn_stop _ both ⟨start, spaceless⟩
  exact ⟨s, holds, stop.move spaceless⟩

end Reading

end Calculator
