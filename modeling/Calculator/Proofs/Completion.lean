import Calculator.Proofs.Arithmetic
import Calculator.Proofs.Moves
import Calculator.Proofs.Trimming

/-!
Which texts lead a reading to its end depends on two things only: whether a factor comes next, and
how many groups are open. `Completes` says it character by character, with no stack. What a reading
has consumed and what completes it make a complete text together, and the other way round for every
text that goes on with the character under the cursor.
-/

namespace Calculator

open Cursor

/-- What comes next: a factor, or what may stand behind one. -/
inductive Stage where
  | factor
  | behind
deriving DecidableEq, Repr

/-- The text, to its end, is the rest of an expression with `depth` open groups. -/
inductive Completes : Stage → (depth : Nat) → Text → Prop
  | sign {a depth t} (isSign : a = '+' ∨ a = '-') (rest : Completes .factor depth t) :
      Completes .factor depth (a :: t)
  | opening {depth t} (rest : Completes .factor (depth + 1) t) : Completes .factor depth ('(' :: t)
  | number {literal depth t} (plain : Decimal.IsPlain literal) (rest : Completes .behind depth t) :
      Completes .factor depth (literal ++ t)
  | operator (op : Operator) {depth t} (rest : Completes .factor depth t) :
      Completes .behind depth (op.symbol :: t)
  | closing {depth t} (rest : Completes .behind depth t) : Completes .behind (depth + 1) (')' :: t)
  | finish : Completes .behind 0 []

namespace Decimal.IsPlain

variable {t : Text}

theorem isNumeric (plain : IsPlain t) : ∀ a ∈ t, Cursor.isNumeric a = true := by
  intro a member
  rcases plain.numeric a member with digit | rfl
  · simp [Cursor.isNumeric, digit]
  · decide

theorem ne_nil (plain : IsPlain t) : t ≠ [] := by
  obtain ⟨a, member, _⟩ := plain.digit
  exact List.ne_nil_of_mem member

theorem isNumeric_head (plain : IsPlain t) {a : Char} {rest whole : Text}
    (same : a :: rest = t ++ whole) : Cursor.isNumeric a = true := by
  cases t with
  | nil => exact absurd rfl plain.ne_nil
  | cons b t =>
    cases same
    exact plain.isNumeric a List.mem_cons_self

end Decimal.IsPlain

/-- Two runs with something else behind them in one text are the same run. -/
theorem run_unique {p : Char → Bool} {u v s t : Text} (same : u ++ s = v ++ t)
    (all : ∀ a ∈ u, p a = true) (all' : ∀ a ∈ v, p a = true)
    (stop : ∀ a, s.head? = some a → p a = false) (stop' : ∀ a, t.head? = some a → p a = false) :
    u = v ∧ s = t := by
  obtain rfl : u = v := by rw [← Text.takeWhile_run all stop, same, Text.takeWhile_run all' stop']
  exact ⟨rfl, List.append_cancel_left same⟩

theorem isNumeric_symbol (op : Operator) : isNumeric op.symbol = false := by
  cases op <;> decide

namespace Completes

variable {depth : Nat} {a : Char} {t : Text}

/-- Behind a factor stands an operator, or the parenthesis that closes the innermost group. -/
theorem head_behind (completes : Completes .behind depth (a :: t)) :
    (∃ op, a = Operator.symbol op ∧ Completes .factor depth t) ∨
      ∃ outer, depth = outer + 1 ∧ a = ')' ∧ Completes .behind outer t := by
  cases completes with
  | operator op rest => exact .inl ⟨op, rfl, rest⟩
  | closing rest => exact .inr ⟨_, rfl, rfl, rest⟩

/-- What may stand behind a factor. -/
theorem head?_behind (completes : Completes .behind depth t) :
    (t.head? = none ∧ depth = 0) ∨ (∃ op, t.head? = some (Operator.symbol op)) ∨
      (t.head? = some ')' ∧ 0 < depth) := by
  cases completes with
  | operator op => exact .inr (.inl ⟨op, rfl⟩)
  | closing => exact .inr (.inr ⟨rfl, Nat.succ_pos _⟩)
  | finish => exact .inl ⟨rfl, rfl⟩

theorem operator_iff {op : Operator} :
    Completes .behind depth (op.symbol :: t) ↔ Completes .factor depth t := by
  refine ⟨fun completes => ?_, .operator op⟩
  rcases completes.head_behind with ⟨_, _, rest⟩ | ⟨_, _, closing, _⟩
  · exact rest
  · exact absurd closing (by cases op <;> decide)

theorem closing_iff : Completes .behind (depth + 1) (')' :: t) ↔ Completes .behind depth t := by
  refine ⟨fun completes => ?_, .closing⟩
  rcases completes.head_behind with ⟨op, symbol, _⟩ | ⟨outer, same, _, rest⟩
  · exact absurd symbol (by cases op <;> decide)
  · rwa [Nat.succ.inj same]

theorem not_numeric_head_behind (completes : Completes .behind depth t) :
    ∀ a, t.head? = some a → isNumeric a = false := by
  intro a head
  cases t with
  | nil => cases head
  | cons b t =>
    cases head
    rcases completes.head_behind with ⟨op, rfl, _⟩ | ⟨_, _, rfl, _⟩
    · exact isNumeric_symbol op
    · decide

/-- A factor begins with a sign, with a parenthesis or with a number. -/
theorem head_factor (completes : Completes .factor depth t) :
    (∃ a rest, t = a :: rest ∧ (a = '+' ∨ a = '-') ∧ Completes .factor depth rest) ∨
      (∃ rest, t = '(' :: rest ∧ Completes .factor (depth + 1) rest) ∨
      ∃ literal rest, t = literal ++ rest ∧ Decimal.IsPlain literal ∧
        Completes .behind depth rest := by
  cases completes with
  | sign isSign rest => exact .inl ⟨_, _, rfl, isSign, rest⟩
  | opening rest => exact .inr (.inl ⟨_, rfl, rest⟩)
  | number plain rest => exact .inr (.inr ⟨_, _, rfl, plain, rest⟩)

/-- What may stand where a factor comes next. -/
theorem exists_head_factor (completes : Completes .factor depth t) :
    ∃ a, t.head? = some a ∧ (a = '+' ∨ a = '-' ∨ a = '(' ∨ isNumeric a = true) := by
  rcases completes.head_factor with ⟨a, _, rfl, sign, _⟩ | ⟨_, rfl, _⟩ | ⟨literal, _, rfl, plain, _⟩
  · exact ⟨a, rfl, by tauto⟩
  · exact ⟨'(', rfl, by simp⟩
  · obtain ⟨a, literal, rfl⟩ := List.exists_cons_of_ne_nil plain.ne_nil
    exact ⟨a, rfl, .inr (.inr (.inr (plain.isNumeric a List.mem_cons_self)))⟩

theorem sign_iff (isSign : a = '+' ∨ a = '-') :
    Completes .factor depth (a :: t) ↔ Completes .factor depth t := by
  refine ⟨fun completes => ?_, .sign isSign⟩
  rcases completes.head_factor with ⟨_, _, same, _, rest⟩ | ⟨_, same, _⟩ |
    ⟨literal, _, same, plain, _⟩
  · cases same
    exact rest
  · cases same
    exact absurd isSign (by decide)
  · have numeric := plain.isNumeric_head same
    rcases isSign with rfl | rfl <;> exact absurd numeric (by decide)

/-- Signs make no difference where a factor comes next. -/
theorem signs_iff {run : Text} (signs : ∀ a ∈ run, a = '+' ∨ a = '-') :
    Completes .factor depth (run ++ t) ↔ Completes .factor depth t := by
  induction run with
  | nil => rfl
  | cons a run ih =>
    rw [List.cons_append, sign_iff (signs a List.mem_cons_self)]
    exact ih fun b member => signs b (.tail a member)

theorem opening_iff : Completes .factor depth ('(' :: t) ↔ Completes .factor (depth + 1) t := by
  refine ⟨fun completes => ?_, .opening⟩
  rcases completes.head_factor with ⟨_, _, same, sign, _⟩ | ⟨_, same, rest⟩ |
    ⟨literal, _, same, plain, _⟩
  · cases same
    exact absurd sign (by decide)
  · cases same
    exact rest
  · exact absurd (plain.isNumeric_head same) (by decide)

/-- A whole run of digits and points is completed only where it is a number. -/
theorem number_iff {run : Text} (nonempty : run ≠ []) (all : ∀ a ∈ run, isNumeric a = true)
    (stop : ∀ a, t.head? = some a → isNumeric a = false) :
    Completes .factor depth (run ++ t) ↔ Decimal.IsPlain run ∧ Completes .behind depth t := by
  refine ⟨fun completes => ?_, fun ⟨plain, rest⟩ => .number plain rest⟩
  obtain ⟨b, run', rfl⟩ := List.exists_cons_of_ne_nil nonempty
  have numeric := all b List.mem_cons_self
  rcases completes.head_factor with ⟨_, _, same, sign, _⟩ | ⟨_, same, _⟩ |
    ⟨literal, _, same, plain, rest⟩
  · cases same
    rcases sign with rfl | rfl <;> exact absurd numeric (by decide)
  · cases same
    exact absurd numeric (by decide)
  · obtain ⟨rfl, rfl⟩ := run_unique same all plain.isNumeric stop rest.not_numeric_head_behind
    exact ⟨plain, rest⟩

/-- From every place there is a way to the end. -/
theorem exists_completes (stage : Stage) (depth : Nat) :
    ∃ t, Completes stage depth t ∧ Text.strip t = t := by
  have closings : Completes .behind depth (List.replicate depth ')') := by
    induction depth with
    | zero => exact .finish
    | succ depth ih => exact .closing ih
  have unseparated : Text.strip (List.replicate depth ')') = List.replicate depth ')' :=
    Text.strip_eq_self fun a member => by rw [List.eq_of_mem_replicate member]; decide
  cases stage with
  | behind => exact ⟨_, closings, unseparated⟩
  | factor =>
    refine ⟨['1'] ++ List.replicate depth ')', .number (by decide) closings, ?_⟩
    rw [Text.strip_append, unseparated]
    rfl

end Completes

/-! ## Moves -/

namespace Reading

variable {α : Type}

/-- What comes next for the reading. -/
def stage : Reading α → Stage
  | factor .. => .factor
  | behind .. => .behind

/-- The number of open groups. -/
def depth : Reading α → Nat
  | factor stack _ _ => stack.length
  | behind stack _ _ _ => stack.length

/-- The text leads the reading to its end. -/
def CompletedBy (r : Reading α) (t : Text) : Prop := Completes r.stage r.depth t

/-- The reading `s` is ahead of `r` by the text `u`, and no completion is lost on the way. -/
structure Consumes (r : Reading α) (u : Text) (s : Reading α) : Prop
    extends Spans r.cursor u s.cursor where
  completedBy : ∀ {t}, s.CompletedBy t → r.CompletedBy (u ++ t)
  of_completedBy : ∀ {t}, t.head? = s.cursor.char → r.CompletedBy (u ++ t) → s.CompletedBy t

namespace Consumes

variable {r s q : Reading α} {u v : Text}

theorem refl (r : Reading α) : Consumes r [] r where
  toSpans := .refl r.cursor
  completedBy := id
  of_completedBy _ := id

theorem head?_append (first : Consumes r u s) {t : Text} (head : t.head? = s.cursor.char) :
    (u ++ t).head? = r.cursor.char := by
  rw [char, first.rest_eq, List.head?_append, List.head?_append, head, char]

theorem trans (first : Consumes r u s) (second : Consumes s v q) : Consumes r (u ++ v) q where
  toSpans := first.toSpans.trans second.toSpans
  completedBy completed := by
    rw [List.append_assoc]
    exact first.completedBy (second.completedBy completed)
  of_completedBy head completed := by
    rw [List.append_assoc] at completed
    exact second.of_completedBy head
      (first.of_completedBy (second.head?_append head) completed)

/-- Signs are consumed where a factor comes next. -/
theorem of_signRun {stack : List (Group α)} {group : Group α} {c d : Cursor} {run : Text}
    (signs : SignRun c run d) : Consumes (factor stack group c) run (factor stack group d) where
  toSpans := signs.toSpans
  completedBy := (Completes.signs_iff signs.signs).2
  of_completedBy _ := (Completes.signs_iff signs.signs).1

end Consumes

theorem Consumes.of_char {r s : Reading α} {a : Char} (here : r.cursor.char = some a)
    (next : s.cursor = r.cursor.advance)
    (same : ∀ t, r.CompletedBy (a :: t) ↔ s.CompletedBy t) : Consumes r [a] s where
  toSpans := next ▸ .of_char here
  completedBy := (same _).2
  of_completedBy _ := (same _).1

/-- A run of digits and points is consumed where it is a number. -/
theorem Consumes.of_run {stack : List (Group α)} {group : Group α} {value : α} {d : Cursor}
    (here : d.char.any isNumeric = true) (plain : Decimal.IsPlain (d.run isNumeric)) :
    Consumes (factor stack group d) (d.run isNumeric)
      (behind stack group value (d.skip isNumeric)) where
  toSpans := .of_run d isNumeric
  completedBy := .number plain
  of_completedBy head completed := by
    refine ((Completes.number_iff (run_ne_nil here) (fun a => of_mem_run) ?_).1 completed).2
    intro a first
    exact eq_false_of_char_skip (head.symm.trans first)

/-! ## Ends -/

/-- The reading cannot go on, for this reason. -/
inductive FailsWith : Reading α → ParseError → Prop
  | noLiteral {stack group c} (here : c.char.any isNumeric = true)
      (notPlain : ¬ Decimal.IsPlain (c.run isNumeric)) :
      FailsWith (factor stack group c) (.invalidNumberLiteral (c.run isNumeric) c.pos)
  | noFactor {stack group c} (noSign : c.char ≠ some '+' ∧ c.char ≠ some '-')
      (noGroup : c.char ≠ some '(') (noNumber : c.char.any isNumeric = false) :
      FailsWith (factor stack group c) (.unexpectedCharacter c.pos c.char)
  | unclosed {outer stack group value c} (noOperator : ∀ op, c.char ≠ some (Operator.symbol op))
      (noClosing : c.char ≠ some ')') :
      FailsWith (behind (outer :: stack) group value c) (.mismatchedParentheses c.pos c.char)
  | leftOver {group value c} (noOperator : ∀ op, c.char ≠ some (Operator.symbol op))
      (more : c.char ≠ none) :
      FailsWith (behind [] group value c) (.unexpectedCharacter c.pos c.char)

/-- Behind an expression that ends the text. -/
inductive AtEnd : Reading α → Prop
  | behind {group value c} (nothing : c.rest = []) : AtEnd (.behind [] group value c)

/-- A reading that cannot go on is completed by no text that goes on with the character found. -/
theorem FailsWith.not_completedBy {r : Reading α} {e : ParseError} (fails : r.FailsWith e)
    (kind : e.kind ≠ .invalidNumberLiteral) {t : Text} (head : t.head? = r.cursor.char) :
    ¬ r.CompletedBy t := by
  intro completed
  cases fails with
  | noLiteral => exact kind rfl
  | @noFactor stack group c noSign noGroup noNumber =>
    obtain ⟨a, first, allowed⟩ := completed.exists_head_factor
    have here : c.char = some a := head.symm.trans first
    rcases allowed with rfl | rfl | rfl | numeric
    · exact noSign.1 here
    · exact noSign.2 here
    · exact noGroup here
    · rw [here, Option.any_some, numeric] at noNumber
      cases noNumber
  | unclosed noOperator noClosing =>
    rcases completed.head?_behind with ⟨_, closed⟩ | ⟨op, first⟩ | ⟨first, _⟩
    · cases closed
    · exact noOperator op (head.symm.trans first)
    · exact noClosing (head.symm.trans first)
  | leftOver noOperator more =>
    rcases completed.head?_behind with ⟨first, _⟩ | ⟨op, first⟩ | ⟨_, opened⟩
    · exact more (head.symm.trans first)
    · exact noOperator op (head.symm.trans first)
    · cases opened

/-- A run that is no number is completed by no text that does not lengthen it. -/
theorem FailsWith.not_completedBy_literal {r : Reading α} {literal : Text} {position : Nat}
    (fails : r.FailsWith (.invalidNumberLiteral literal position)) {t : Text}
    (stop : ∀ a, t.head? = some a → isNumeric a = false) : ¬ r.CompletedBy (literal ++ t) := by
  intro completed
  cases fails with
  | @noLiteral stack group c here notPlain =>
    have numeric : ∀ a ∈ c.run isNumeric, isNumeric a = true := fun a => of_mem_run
    obtain ⟨plain, _⟩ := (Completes.number_iff (run_ne_nil here) numeric stop).1 completed
    exact notPlain plain

theorem FailsWith.not_completedBy_rest {r : Reading α} {e : ParseError} (fails : r.FailsWith e) :
    ¬ r.CompletedBy r.cursor.rest := by
  cases e with
  | mismatchedParentheses => exact fails.not_completedBy (by simp [ParseError.kind]) rfl
  | unexpectedCharacter => exact fails.not_completedBy (by simp [ParseError.kind]) rfl
  | invalidNumberLiteral literal position =>
    cases fails with
    | @noLiteral stack group c here notPlain =>
      have fails : FailsWith (factor stack group c) _ := .noLiteral here notPlain
      have stop : ∀ a, (c.skip isNumeric).rest.head? = some a → isNumeric a = false :=
        fun a first => eq_false_of_char_skip first
      have blocked := fails.not_completedBy_literal stop
      rwa [c.run_append_rest_skip] at blocked

theorem AtEnd.completedBy {r : Reading α} (atEnd : r.AtEnd) : r.CompletedBy r.cursor.rest := by
  cases atEnd with
  | @behind group value c nothing =>
    change Completes .behind 0 c.rest
    rw [nothing]
    exact .finish

variable [Arithmetic α] [PlainLiterals α]

/-- Every step that leads to a next reading consumes what it passes. -/
theorem Move.exists_consumes {r s : Reading α} (move : Move r (.next s)) :
    ∃ u, Consumes r u s := by
  cases move with
  | opening signs here =>
    exact ⟨_, (Consumes.of_signRun signs).trans
      (Consumes.of_char here rfl fun t => Completes.opening_iff)⟩
  | literal signs here found =>
    exact ⟨_, (Consumes.of_signRun signs).trans (Consumes.of_run here (isPlain_of_literal found))⟩
  | operator here => exact ⟨_, Consumes.of_char here rfl fun t => Completes.operator_iff⟩
  | closing here => exact ⟨_, Consumes.of_char here rfl fun t => Completes.closing_iff⟩

/-- The run stops at a reading that has consumed what is before it. -/
theorem exists_consumes_stop {r : Reading α} (spaceless : r.cursor.Spaceless) :
    ∃ u s, Consumes r u s ∧ Move s (.stop r.run.1 r.run.2) := by
  have kept {s q : Reading α} (before : ∃ u, Consumes r u s) (move : Move s (.next q)) :
      ∃ u, Consumes r u q := by
    obtain ⟨u, before⟩ := before
    obtain ⟨v, after⟩ := move.exists_consumes
    exact ⟨_, before.trans after⟩
  obtain ⟨s, ⟨u, consumes⟩, stop⟩ := exists_stop_of_invariant _ kept spaceless ⟨[], .refl r⟩
  exact ⟨u, s, consumes, stop⟩

/-- The reading of a whole text before its first step. -/
def start (t : Text) : Reading α := factor [] (.opened false) (Cursor.start (Text.strip t))

/-- The reading of a text consumes it up to a place where it succeeds or cannot go on. -/
theorem exists_outcome (t : Text) :
    ∃ u s, Consumes (start t : Reading α) u s ∧
      ((∃ x : α, evaluate t = .ok x) ∧ s.AtEnd ∨
        ∃ e, (evaluate t : Except ParseError α) = .error e ∧ s.FailsWith e) := by
  obtain ⟨u, s, consumes, stop⟩ :=
    exists_consumes_stop (r := (start t : Reading α)) (Cursor.spaceless_start_strip t)
  rw [evaluate, Cursor.expression]
  rw [start] at stop
  generalize (factor [] (Group.opened (α := α) false) (Cursor.start (Text.strip t))).run =
    outcome at *
  obtain ⟨outcome, c⟩ := outcome
  simp only at stop
  cases stop with
  | noLiteral signs here valueless =>
    exact ⟨_, _, consumes.trans (.of_signRun signs), .inr ⟨_, rfl,
      .noLiteral here (not_isPlain_of_literal valueless)⟩⟩
  | noFactor signs noGroup noNumber =>
    exact ⟨_, _, consumes.trans (.of_signRun signs), .inr ⟨_, rfl,
      .noFactor signs.stop noGroup noNumber⟩⟩
  | unclosed noOperator noClosing =>
    exact ⟨_, _, consumes, .inr ⟨_, rfl, .unclosed noOperator noClosing⟩⟩
  | result noOperator =>
    refine ⟨_, _, consumes, ?_⟩
    cases left : c.rest with
    | nil => exact .inl ⟨⟨_, if_pos (by simp [atEnd, left])⟩, .behind left⟩
    | cons a rest =>
      exact .inr ⟨_, if_neg (by simp [atEnd, left]),
        .leftOver noOperator (by simp [char, left])⟩

end Reading

variable {α : Type} [Arithmetic α] [PlainLiterals α]

variable (α) in
/-- A text has a value when it completes the reading of an expression. -/
theorem exists_ok_iff_completes (t : Text) :
    (∃ x : α, evaluate t = .ok x) ↔ Completes .factor 0 (Text.strip t) := by
  obtain ⟨u, s, consumes, ends⟩ := Reading.exists_outcome (α := α) t
  have split : Text.strip t = u ++ s.cursor.rest := consumes.rest_eq
  have completed : Completes .factor 0 (Text.strip t) ↔ s.CompletedBy s.cursor.rest := by
    rw [split]
    exact ⟨consumes.of_completedBy rfl, consumes.completedBy⟩
  rw [completed]
  rcases ends with ⟨value, atEnd⟩ | ⟨e, raised, fails⟩
  · exact iff_of_true value atEnd.completedBy
  · refine iff_of_false ?_ fails.not_completedBy_rest
    rintro ⟨x, value⟩
    cases raised.symm.trans value

end Calculator
