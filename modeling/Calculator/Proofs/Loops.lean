import Calculator.Expression.Passes
import Calculator.Proofs.Moves

/-!
Every pass that is followed by another moves the cursor forward within the text, so a loop is left
after no more passes than there are characters left, and one. What it is left with is what the
reading comes to.
-/

namespace Calculator

open Cursor

namespace Pass

variable {σ β : Type} {pass : σ → Option (Pass σ β)} {cursor : σ → Cursor} {Leads : σ → β → Prop}

/-- Every pass that is followed by another moves the cursor forward within the text. -/
def Forward (pass : σ → Option (Pass σ β)) (cursor : σ → Cursor) : Prop :=
  ∀ {s s' : σ}, pass s = some (.again s') → (cursor s').text = (cursor s).text ∧
    (cursor s).pos < (cursor s').pos ∧ (cursor s').pos ≤ (cursor s).text.length

/-- A pass is never given up. It moves the cursor over some text and leaves open what the loop leads
to, or it leaves the loop with that. -/
def Sound (pass : σ → Option (Pass σ β)) (cursor : σ → Cursor) (Leads : σ → β → Prop) : Prop :=
  ∀ s, (∃ s' u, pass s = some (.again s') ∧ Spans (cursor s) u (cursor s') ∧ u ≠ [] ∧
      ∀ b, Leads s' b → Leads s b) ∨
    ∃ b, pass s = some (.leave b) ∧ Leads s b

/-- A pass that is sound moves forward. -/
theorem Sound.forward (sound : Sound pass cursor Leads) : Forward pass cursor := by
  intro s s' next
  rcases sound s with ⟨q, u, again, spans, moved, -⟩ | ⟨b, leave, -⟩
  · obtain rfl : q = s' := by
      rw [again] at next
      cases next
      rfl
    have place := spans.pos_eq
    have within := spans.pos_le_max
    have some := List.length_pos_iff.2 moved
    exact ⟨spans.text_eq, by omega, by omega⟩
  · rw [leave] at next
    cases next

/-- So many passes as there are characters left, and one, are enough. -/
theorem Sound.exists_loop (sound : Sound pass cursor Leads) {passes : Nat} {s : σ}
    (enough : (cursor s).rest.length < passes) : ∃ b, loop pass passes s = some b ∧ Leads s b := by
  induction passes generalizing s with
  | zero => exact absurd enough (Nat.not_lt_zero _)
  | succ passes ih =>
    rw [loop]
    rcases sound s with ⟨s', u, again, spans, moved, leads⟩ | ⟨b, leave, result⟩
    · have rest := spans.length_rest
      have some := List.length_pos_iff.2 moved
      obtain ⟨b, left, result⟩ := ih (s := s') (by omega)
      rw [again]
      exact ⟨b, left, leads b result⟩
    · rw [leave]
      exact ⟨b, rfl, result⟩

end Pass

/-! ## Runs of characters -/

namespace Cursor

variable {c d : Cursor} {u : Text} {p : Char → Bool}

/-- A run goes on behind a text of its class. -/
theorem Spans.run_eq (spans : Spans c u d) (all : ∀ a ∈ u, p a = true) :
    c.run p = u ++ d.run p := by
  rw [run, spans.rest_eq, List.takeWhile_append_of_pos all, run]

theorem Spans.skip_eq (spans : Spans c u d) (all : ∀ a ∈ u, p a = true) :
    c.skip p = d.skip p := by
  rw [skip, spans.run_eq all, skip, List.length_append, ← forward_forward, spans.forward]

theorem negates_of_spaces (spaces : ∀ a ∈ u, a = ' ') : negates u = false := by
  have none : u.count '-' = 0 := by
    refine List.count_eq_zero.2 fun member => ?_
    exact absurd (spaces '-' member) (by decide)
  rw [negates, none]
  rfl

/-- Signs that have been passed count. -/
theorem Spans.signs_eq (spans : Spans c u d) (signs : ∀ a ∈ u, a = ' ' ∨ a = '+' ∨ a = '-') :
    c.signs = ((negates u ^^ d.signs.1), d.signs.2) := by
  have all : ∀ a ∈ u, (a = ' ' || a = '+' || a = '-') = true := by
    intro a member
    simpa [or_assoc] using signs a member
  simp only [Cursor.signs, spans.run_eq all, spans.skip_eq all, negates_append]

theorem signs_eq_self (noSpace : c.char ≠ some ' ') (noPlus : c.char ≠ some '+')
    (noMinus : c.char ≠ some '-') : c.signs = (false, c) := by
  have stop : c.char.any (fun a => a = ' ' || a = '+' || a = '-') = false := by
    cases here : c.char with
    | none => rfl
    | some a => simp_all
  rw [Cursor.signs, run_eq_nil stop, skip_eq_self stop]
  rfl

end Cursor

namespace Bounded

variable {bound : Nat → Nat}

theorem runPass_sound (p : Char → Bool) :
    Pass.Sound (runPass p) id (fun c d => d = c.skip p) := by
  intro c
  cases here : c.char.any p with
  | true =>
    obtain ⟨a, char, inside⟩ := (Option.any_eq_true ..).1 here
    have spans := Spans.of_char char
    refine .inl ⟨c.advance, [a], by rw [runPass, here]; rfl, spans, by simp, ?_⟩
    rintro d rfl
    exact (spans.skip_eq (by simpa using inside)).symm
  | false => exact .inr ⟨c, by rw [runPass, here]; rfl, (skip_eq_self here).symm⟩

section

variable (enough : ∀ n, n < bound n)
include enough

/-- The loop over a run is left behind the run. -/
theorem skip_eq (p : Char → Bool) (c : Cursor) : skip bound p c = some (c.skip p) := by
  obtain ⟨d, left, rfl⟩ := (runPass_sound p).exists_loop (s := c) (enough c.rest.length)
  exact left

theorem eat_eq (c : Cursor) (expected : Char) : eat bound c expected = some (c.eat expected) := by
  rw [eat, skip_eq enough]
  rfl

/-- A pass turns the parity that the signs behind it are counted from. -/
theorem signsPass_sound :
    Pass.Sound (signsPass bound) Prod.snd
      (fun s result => result = ((s.1 ^^ s.2.signs.1), s.2.signs.2)) := by
  rintro ⟨odd, c⟩
  obtain ⟨d, skipped⟩ : ∃ d, c.skipSpaces = d := ⟨_, rfl⟩
  have spans : Spans c (c.run (· = ' ')) d := skipped ▸ .of_run c _
  have spaces : ∀ a ∈ c.run (· = ' '), a = ' ' := fun a member => by simpa using of_mem_run member
  have noSpace : d.char ≠ some ' ' := char_ne_of_skipSpaces skipped
  have plus : c.eat '+' = if d.char = some '+' then (true, d.advance) else (false, d) := by
    rw [Cursor.eat, skipped]
  have minus := Cursor.eat_eq noSpace '-'
  -- Behind a sign, the signs come to what the others come to, with this one.
  have sign {a : Char} (here : d.char = some a) (isSign : a = '+' ∨ a = '-') :
      c.signs = ((negates [a] ^^ d.advance.signs.1), d.advance.signs.2) := by
    have through := (spans.trans (.of_char here)).signs_eq fun b member => by
      rcases List.mem_append.1 member with space | last
      · exact .inl (spaces b space)
      · exact .inr (List.mem_singleton.1 last ▸ isSign)
    rwa [negates_append, negates_of_spaces spaces, Bool.false_xor] at through
  by_cases isPlus : d.char = some '+'
  · refine .inl ⟨(odd, d.advance), _, ?_, spans.trans (.of_char isPlus), by simp, ?_⟩
    · rw [if_pos isPlus] at plus
      simp [signsPass, eat_eq enough, plus]
    · rintro b rfl
      rw [sign isPlus (.inl rfl)]
      simp
  rw [if_neg isPlus] at plus
  by_cases isMinus : d.char = some '-'
  · refine .inl ⟨(!odd, d.advance), _, ?_, spans.trans (.of_char isMinus), by simp, ?_⟩
    · rw [if_pos isMinus] at minus
      simp [signsPass, eat_eq enough, plus, minus]
    · rintro b rfl
      rw [sign isMinus (.inr rfl)]
      simp
  · refine .inr ⟨(odd, d), ?_, ?_⟩
    · rw [if_neg isMinus] at minus
      simp [signsPass, eat_eq enough, plus, minus]
    · have none := spans.signs_eq fun a member => .inl (spaces a member)
      rw [negates_of_spaces spaces, signs_eq_self noSpace isPlus isMinus] at none
      simp [none]

theorem signs_eq (c : Cursor) : signs bound c = some c.signs := by
  obtain ⟨result, left, rfl⟩ :=
    (signsPass_sound enough).exists_loop (s := (false, c)) (enough c.rest.length)
  rw [signs, left]
  simp

/-- An operator is found whatever the order in which they are tried, for no two have one symbol. -/
theorem operatorAmong_eq_some {d : Cursor} {op : Operator} {ops : List Operator}
    (noSpace : d.char ≠ some ' ') (here : d.char = some op.symbol) (member : op ∈ ops) :
    operatorAmong bound ops d = some (some op, d.advance) := by
  induction ops with
  | nil => cases member
  | cons first ops ih =>
    rw [operatorAmong, eat_eq enough, Cursor.eat_eq noSpace]
    by_cases same : d.char = some first.symbol
    · rw [if_pos same]
      rw [operator_unique here same]
      rfl
    · rw [if_neg same]
      have other : op ≠ first := by
        rintro rfl
        exact same here
      exact ih ((List.mem_cons.1 member).resolve_left other)

theorem operatorAmong_eq_none {d : Cursor} (noSpace : d.char ≠ some ' ')
    (noOperator : ∀ op, d.char ≠ some (Operator.symbol op)) (ops : List Operator) :
    operatorAmong bound ops d = some (none, d) := by
  induction ops with
  | nil => rfl
  | cons first ops ih =>
    rw [operatorAmong, eat_eq enough, Cursor.eat_eq noSpace, if_neg (noOperator first)]
    exact ih

theorem operator_eq (c : Cursor) : operator bound c = some c.operator := by
  obtain ⟨d, skipped⟩ : ∃ d, c.skipSpaces = d := ⟨_, rfl⟩
  have noSpace : d.char ≠ some ' ' := char_ne_of_skipSpaces skipped
  have same : operator bound c = operator bound d := by
    simp only [operator, operatorAmong, eat_eq enough, Cursor.eat, skipped,
      skipSpaces_eq_self noSpace]
  rw [same, operator]
  by_cases found : ∃ op, d.char = some (Operator.symbol op)
  · obtain ⟨op, here⟩ := found
    rw [operator_eq_some skipped here, operatorAmong_eq_some enough noSpace here]
    cases op <;> decide
  · have noOperator := not_exists.1 found
    rw [operator_eq_none skipped noOperator, operatorAmong_eq_none enough noSpace noOperator]

variable {α : Type} [Arithmetic α]

theorem number_eq (c : Cursor) :
    number bound c = some (c.number : Except ParseError α × Cursor) := by
  have literal : (c.text.take (c.skip isNumeric).pos).drop c.pos = c.run isNumeric :=
    (Spans.of_run c isNumeric).drop_take_eq
  rw [number, skip_eq enough, Cursor.number]
  cases value : (Arithmetic.literal (c.run isNumeric) : Option α) <;>
    simp only [Option.map_some, literal, value]

end

/-- A reading before a factor. -/
def Level.reading {α : Type} (s : Level α) : Reading α := .factor s.stack s.group s.cursor

/-- A reading behind a factor. -/
def Closing.reading {α : Type} (s : Closing α) : Reading α :=
  .behind s.stack s.group s.value s.cursor

variable {α : Type} [Arithmetic α]

/-- What a loop is left with comes to what the reading comes to, on the text behind. -/
def Comes (r : Reading α) : Pass (Level α) (Except ParseError α × Cursor) → Prop
  | .again s => (∃ u, Spans r.cursor u s.cursor) ∧ r.run = s.reading.run
  | .leave outcome => r.run = outcome

theorem Comes.of_turn {r r' : Reading α} {b : Pass (Level α) (Except ParseError α × Cursor)}
    (turn : r.Turn (.next r')) (comes : Comes r' b) : Comes r b := by
  cases b with
  | again s =>
    obtain ⟨⟨u, spans⟩, run⟩ := comes
    obtain ⟨v, before⟩ := turn.exists_spans
    exact ⟨⟨_, before.trans spans⟩, turn.run_eq.trans run⟩
  | leave outcome => exact turn.run_eq.trans comes

section

variable (enough : ∀ n, n < bound n)
include enough

/-- A group that is closed leaves open what the reading behind the parenthesis comes to. -/
theorem closingPass_sound :
    Pass.Sound (closingPass bound) (fun s : Closing α => s.cursor) fun s => Comes s.reading := by
  rintro ⟨⟨stack, group, c⟩, value⟩
  let taken := group.addFactor value
  obtain ⟨p, turn⟩ := (Reading.behind stack group value c).exists_turn
  have whole := turn
  cases turn with
  | @operator _ _ _ _ d op spaces here =>
    refine .inr ⟨.again ⟨stack, taken.addOperator op, d.advance⟩, ?_, whole.exists_spans,
      whole.run_eq⟩
    rw [closingPass, operator_eq enough, operator_eq_some spaces here]
    rfl
  | @result _ _ _ d spaces noOperator =>
    refine .inr ⟨.leave (.ok taken.result, d), ?_, whole.run_eq_stop⟩
    rw [closingPass, operator_eq enough, operator_eq_none spaces noOperator]
    rfl
  | @closing outer stack _ _ _ d spaces here =>
    obtain ⟨u, skipped⟩ := exists_spans_of_skipSpaces spaces
    refine .inl ⟨⟨⟨stack, outer, d.advance⟩, taken.signed taken.result⟩, _, ?_,
      skipped.trans (.of_char here), by simp, fun b => .of_turn whole⟩
    rw [closingPass, operator_eq enough, operator_eq_none spaces (ne_symbol_of_closing here)]
    simp only [Option.bind_eq_bind, Option.bind_some, eat_eq enough,
      Cursor.eat_eq (char_ne_of_skipSpaces spaces), here, if_true]
    rfl
  | @unclosed outer stack _ _ _ d spaces noOperator noClosing =>
    refine .inr ⟨.leave (.error (.mismatchedParentheses d.pos d.char), d), ?_, whole.run_eq_stop⟩
    rw [closingPass, operator_eq enough, operator_eq_none spaces noOperator]
    simp only [Option.bind_eq_bind, Option.bind_some, eat_eq enough,
      Cursor.eat_eq (char_ne_of_skipSpaces spaces), if_neg noClosing]

/-- A factor that is read leaves open what the reading behind the next operator comes to. -/
theorem levelPass_sound :
    Pass.Sound (levelPass bound) (fun s : Level α => s.cursor)
      fun s outcome => s.reading.run = outcome := by
  rintro ⟨stack, group, c⟩
  obtain ⟨p, turn⟩ := (Reading.factor stack group c).exists_turn
  have whole := turn
  cases turn with
  | @opening _ _ _ odd d signs here =>
    obtain ⟨u, skipped⟩ := exists_spans_of_signs signs
    refine .inl ⟨⟨group :: stack, .opened odd, d.advance⟩, _, ?_, skipped.trans (.of_char here),
      by simp, fun b => whole.run_eq.trans⟩
    rw [levelPass, signs_eq enough, signs]
    simp only [Option.bind_eq_bind, Option.bind_some, eat_eq enough,
      Cursor.eat_eq (char_ne_of_signs signs), here, if_true]
  | @literal _ _ _ odd d value signs here found =>
    obtain ⟨u, skipped⟩ := exists_spans_of_signs signs
    have number : d.number = (.ok value, d.skip isNumeric) := by rw [Cursor.number, found]
    obtain ⟨b, left, comes⟩ := (closingPass_sound enough).exists_loop
      (s := ⟨⟨stack, group, d.skip isNumeric⟩, Arithmetic.withSign odd value⟩)
      (enough (d.skip isNumeric).rest.length)
    have pass : levelPass bound ⟨stack, group, c⟩ = some b := by
      rw [levelPass, signs_eq enough, signs, ← left]
      simp only [Option.bind_eq_bind, Option.bind_some, eat_eq enough,
        Cursor.eat_eq (char_ne_of_signs signs), if_neg (ne_opening_of_numeric here), here, if_true,
        number_eq enough, number]
      rfl
    cases b with
    | again s =>
      obtain ⟨⟨v, behind⟩, run⟩ := comes
      refine .inl ⟨s, _, pass, (skipped.trans (.of_run d isNumeric)).trans behind, ?_,
        fun outcome => (whole.run_eq.trans run).trans⟩
      simp [run_ne_nil here]
    | leave outcome => exact .inr ⟨outcome, pass, whole.run_eq.trans comes⟩
  | @noLiteral _ _ _ odd d signs here valueless =>
    have number : d.number = ((.error (.invalidNumberLiteral (d.run isNumeric) d.pos) :
        Except ParseError α), d.skip isNumeric) := by rw [Cursor.number, valueless]
    refine .inr ⟨(.error (.invalidNumberLiteral (d.run isNumeric) d.pos), d.skip isNumeric), ?_,
      whole.run_eq_stop⟩
    rw [levelPass, signs_eq enough, signs]
    simp only [Option.bind_eq_bind, Option.bind_some, eat_eq enough,
      Cursor.eat_eq (char_ne_of_signs signs), if_neg (ne_opening_of_numeric here), here, if_true,
      number_eq enough, number]
  | @noFactor _ _ _ odd d signs noGroup noNumber =>
    refine .inr ⟨(.error (.unexpectedCharacter d.pos d.char), d), ?_, whole.run_eq_stop⟩
    rw [levelPass, signs_eq enough, signs]
    simp only [Option.bind_eq_bind, Option.bind_some, eat_eq enough,
      Cursor.eat_eq (char_ne_of_signs signs), if_neg noGroup, noNumber, Bool.false_eq_true,
      if_false]

/-- The loop over the factors is left with the outcome of the reading. -/
theorem loop_levelPass_eq {passes : Nat} (s : Level α) (suffice : s.cursor.rest.length < passes) :
    Pass.loop (levelPass bound) passes s = some s.reading.run := by
  obtain ⟨outcome, left, rfl⟩ := (levelPass_sound enough).exists_loop suffice
  exact left

end

end Bounded

/-- With any bound that allows a loop one pass more than there are characters left where it begins,
an expression is read in loops from any place of any text, to the same value or error at the same
place, and the loop over the factors makes no more passes than these. For each pass that is followed
by another, in all five loops, moves the cursor forward within the text. -/
theorem expression_of_bound {α : Type} [Arithmetic α] {bound : Nat → Nat}
    (enough : ∀ n, n < bound n) :
    (∀ c : Cursor,
      Bounded.expression bound c = some (c.expression : Except ParseError α × Cursor) ∧
        Pass.loop (Bounded.levelPass bound) (c.rest.length + 1) ⟨[], .opened false, c⟩ =
          some (c.expression : Except ParseError α × Cursor)) ∧
    Pass.Forward (Bounded.levelPass (α := α) bound) (fun s => s.cursor) ∧
    Pass.Forward (Bounded.closingPass (α := α) bound) (fun s => s.cursor) ∧
    Pass.Forward (Bounded.signsPass bound) Prod.snd ∧
    Pass.Forward (Bounded.runPass (· = ' ')) id ∧
    Pass.Forward (Bounded.runPass isNumeric) id := by
  refine ⟨fun c => ⟨?_, ?_⟩, ?_, ?_, ?_, ?_, ?_⟩
  · exact Bounded.loop_levelPass_eq enough ⟨[], .opened false, c⟩ (enough c.rest.length)
  · exact Bounded.loop_levelPass_eq enough ⟨[], .opened false, c⟩ (Nat.lt_succ_self _)
  · exact (Bounded.levelPass_sound enough).forward
  · exact (Bounded.closingPass_sound enough).forward
  · exact (Bounded.signsPass_sound enough).forward
  · exact (Bounded.runPass_sound (· = ' ')).forward
  · exact (Bounded.runPass_sound isNumeric).forward

/-- From the middle of a text with its spaces, and from behind the end of one. -/
theorem expression_of_bound_unfinished :
    (∀ n : Nat, n < n + 1) ∧
    Bounded.expression (· + 1) ((start "4 ( 1 +  2".toList).forward 1) =
      some ((.error (.mismatchedParentheses 10 none) : Except ParseError Float),
        (start "4 ( 1 +  2".toList).forward 10) ∧
    Bounded.expression (· + 1) ((start "1".toList).forward 3) =
      some ((.error (.unexpectedCharacter 3 none) : Except ParseError Float),
        (start "1".toList).forward 3) := by
  have enough : ∀ n : Nat, n < n + 1 := Nat.lt_succ_self
  have middle : ((start "4 ( 1 +  2".toList).forward 1).expression =
      ((.error (.mismatchedParentheses 10 none) : Except ParseError Float),
        (start "4 ( 1 +  2".toList).forward 10) := by decide +kernel
  have behind : ((start "1".toList).forward 3).expression =
      ((.error (.unexpectedCharacter 3 none) : Except ParseError Float),
        (start "1".toList).forward 3) := by decide +kernel
  refine ⟨enough, ?_, ?_⟩
  · rw [← middle]
    exact ((expression_of_bound enough).1 _).1
  · rw [← behind]
    exact ((expression_of_bound enough).1 _).1

end Calculator
