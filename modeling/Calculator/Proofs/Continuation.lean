import Calculator.Proofs.Completion
import Calculator.Proofs.Descent

/-!
What a reading does with the rest of the text depends on what it holds, and not on its place. A
`Continuation` holds no group around the current one: each is known by what it becomes with the
value of the group inside. `Continuation.read` reads a text with it and counts places from the start
of that text.
-/

namespace Calculator

open Cursor

namespace ParseError

/-- The error with as many characters before it. -/
def forward (count : Nat) : ParseError → ParseError
  | mismatchedParentheses position found => mismatchedParentheses (count + position) found
  | unexpectedCharacter position found => unexpectedCharacter (count + position) found
  | invalidNumberLiteral literal position => invalidNumberLiteral literal (count + position)

@[simp] theorem forward_zero (e : ParseError) : e.forward 0 = e := by
  cases e <;> simp [forward]

@[simp] theorem forward_forward (m n : Nat) (e : ParseError) :
    (e.forward n).forward m = e.forward (m + n) := by
  cases e <;> simp [forward, Nat.add_assoc]

@[simp] theorem position_forward (count : Nat) (e : ParseError) :
    (e.forward count).position = count + e.position := by
  cases e <;> rfl

@[simp] theorem kind_forward (count : Nat) (e : ParseError) : (e.forward count).kind = e.kind := by
  cases e <;> rfl

@[simp] theorem char_forward (count : Nat) (e : ParseError) : (e.forward count).char = e.char := by
  cases e <;> rfl

end ParseError

section

variable {α : Type}

/-- The outcome of a text with as many characters before it. -/
def moved (count : Nat) (outcome : Except ParseError α) : Except ParseError α :=
  outcome.mapError (ParseError.forward count)

@[simp] theorem moved_ok (count : Nat) (x : α) :
    moved count (.ok x : Except ParseError α) = .ok x := rfl

@[simp] theorem moved_error (count : Nat) (e : ParseError) :
    moved count (.error e : Except ParseError α) = .error (e.forward count) := rfl

@[simp] theorem moved_zero (outcome : Except ParseError α) : moved 0 outcome = outcome := by
  cases outcome <;> simp

@[simp] theorem moved_moved (m n : Nat) (outcome : Except ParseError α) :
    moved m (moved n outcome) = moved (m + n) outcome := by
  cases outcome <;> simp

/-- Only an error has a place. -/
theorem moved_eq_ok_iff {count : Nat} {outcome : Except ParseError α} {x : α} :
    moved count outcome = .ok x ↔ outcome = .ok x := by
  cases outcome <;> simp

end

/-- What a reading holds, in the form in which the rest of the text uses it. -/
inductive Continuation (α : Type) where
  /-- A factor comes next, with which the group becomes what `take` says. -/
  | factor (levels : List (α → Group α)) (take : α → Group α)
  /-- The group has taken the factor before. -/
  | behind (levels : List (α → Group α)) (group : Group α)

namespace Continuation

variable {α : Type} [Arithmetic α]

/-- The outcome of a text, in which places are counted from its start. -/
def read : Continuation α → Text → Except ParseError α
  | factor _ _, [] => .error (.unexpectedCharacter 0 none)
  | factor levels take, a :: t =>
    if a = '+' then moved 1 (read (factor levels take) t)
    else if a = '-' then moved 1 (read (factor levels fun x => take (Arithmetic.negate x)) t)
    else if a = '(' then
      moved 1 (read (factor (take :: levels) (Group.opened false).addFactor) t)
    else if isNumeric a then
      let run := a :: t.takeWhile isNumeric
      match Arithmetic.literal run with
      | some value => moved run.length (read (behind levels (take value)) (t.dropWhile isNumeric))
      | none => .error (.invalidNumberLiteral run 0)
    else .error (.unexpectedCharacter 0 a)
  | behind [] group, [] => .ok group.result
  | behind (_ :: _) _, [] => .error (.mismatchedParentheses 0 none)
  | behind levels group, a :: t =>
    match Operator.ofChar? a, levels with
    | some op, levels => moved 1 (read (factor levels (group.addOperator op).addFactor) t)
    | none, [] => .error (.unexpectedCharacter 0 a)
    | none, take :: levels =>
      if a = ')' then moved 1 (read (behind levels (take group.result)) t)
      else .error (.mismatchedParentheses 0 a)
termination_by _ t => t.length
decreasing_by
  all_goals simp only [List.length_cons]
  all_goals first | omega | exact Nat.lt_succ_of_le (List.dropWhile_suffix _).length_le

/-- No run of digits and points goes on from the one text into the other. -/
def Apart (u t : Text) : Prop :=
  (∃ a ∈ u, isNumeric a = true) → ∀ a, t.head? = some a → isNumeric a = false

/-- The text is consumed at once, with what is left then. -/
inductive Takes : Continuation α → Text → Continuation α → Prop
  | plus {levels take} : Takes (factor levels take) ['+'] (factor levels take)
  | minus {levels take} :
      Takes (factor levels take) ['-'] (factor levels fun x => take (Arithmetic.negate x))
  | opening {levels take} :
      Takes (factor levels take) ['('] (factor (take :: levels) (Group.opened false).addFactor)
  | number {levels take run value} (nonempty : run ≠ []) (numeric : ∀ a ∈ run, isNumeric a = true)
      (found : Arithmetic.literal run = some value) :
      Takes (factor levels take) run (behind levels (take value))
  | operator {levels group} (op : Operator) :
      Takes (behind levels group) [op.symbol] (factor levels (group.addOperator op).addFactor)
  | closing {take levels group} :
      Takes (behind (take :: levels) group) [')'] (behind levels (take group.result))

/-- The text cannot be read on, for this reason. -/
inductive Fails : Continuation α → Text → ParseError → Prop
  | noLiteral {levels take run t} (nonempty : run ≠ []) (numeric : ∀ a ∈ run, isNumeric a = true)
      (apart : Apart run t) (valueless : (Arithmetic.literal run : Option α) = none) :
      Fails (factor levels take) (run ++ t) (.invalidNumberLiteral run 0)
  | noFactor {levels take t} (noSign : t.head? ≠ some '+' ∧ t.head? ≠ some '-')
      (noGroup : t.head? ≠ some '(') (noNumber : t.head?.any isNumeric = false) :
      Fails (factor levels take) t (.unexpectedCharacter 0 t.head?)
  | unclosed {take levels group t} (noOperator : ∀ op, t.head? ≠ some (Operator.symbol op))
      (noClosing : t.head? ≠ some ')') :
      Fails (behind (take :: levels) group) t (.mismatchedParentheses 0 t.head?)
  | leftOver {group t} (noOperator : ∀ op, t.head? ≠ some (Operator.symbol op)) (more : t ≠ []) :
      Fails (behind [] group) t (.unexpectedCharacter 0 t.head?)

theorem apart_of_not_numeric {a : Char} (other : isNumeric a = false) (t : Text) : Apart [a] t := by
  rintro ⟨b, member, numeric⟩
  rw [List.mem_singleton.1 member, other] at numeric
  cases numeric

/-- A run with its end is cut off whole. -/
theorem Apart.takeWhile_append {run t : Text} (apart : Apart run t) (nonempty : run ≠ [])
    (numeric : ∀ a ∈ run, isNumeric a = true) :
    (run ++ t).takeWhile isNumeric = run ∧ (run ++ t).dropWhile isNumeric = t := by
  obtain ⟨b, member⟩ := List.exists_mem_of_ne_nil run nonempty
  have stop := apart ⟨b, member, numeric b member⟩
  exact ⟨Text.takeWhile_run numeric stop, Text.dropWhile_run numeric stop⟩

variable {k next : Continuation α} {u t : Text} {e : ParseError}

/-- At a digit or a point the whole run is looked at. -/
theorem read_run {levels : List (α → Group α)} {take : α → Group α} {run : Text}
    (nonempty : run ≠ []) (numeric : ∀ a ∈ run, isNumeric a = true) (apart : Apart run t) :
    (factor levels take).read (run ++ t) =
      match (Arithmetic.literal run : Option α) with
      | some value => moved run.length ((behind levels (take value)).read t)
      | none => .error (.invalidNumberLiteral run 0) := by
  obtain ⟨whole, rest⟩ := apart.takeWhile_append nonempty numeric
  obtain ⟨a, run, rfl⟩ := List.exists_cons_of_ne_nil nonempty
  have first : isNumeric a = true := numeric a List.mem_cons_self
  have other : a ≠ '+' ∧ a ≠ '-' ∧ a ≠ '(' := by
    refine ⟨?_, ?_, ?_⟩ <;> rintro rfl <;> exact absurd first (by decide)
  simp only [List.cons_append, List.takeWhile_cons, List.dropWhile_cons, first, ↓reduceIte]
    at whole rest
  rw [List.cons_append, read, if_neg other.1, if_neg other.2.1, if_neg other.2.2, if_pos first]
  simp only [whole, rest]

/-- What is consumed at once does no more than move the outcome of the rest. -/
theorem Takes.read (takes : Takes k u next) (apart : Apart u t) :
    k.read (u ++ t) = moved u.length (next.read t) := by
  cases takes with
  | plus => simp [Continuation.read]
  | minus => simp [Continuation.read]
  | opening => simp [Continuation.read]
  | number nonempty numeric found => rw [read_run nonempty numeric apart, found]
  | @operator levels group op =>
    cases levels <;> simp [Continuation.read, Operator.ofChar?_eq_some_iff.2 rfl]
  | closing => simp [Continuation.read, Operator.ofChar?]

theorem Fails.read (fails : Fails k t e) : k.read t = .error e := by
  cases fails with
  | noLiteral nonempty numeric apart valueless => rw [read_run nonempty numeric apart, valueless]
  | noFactor noSign noGroup noNumber =>
    cases t with
    | nil => simp [Continuation.read]
    | cons a t => simp_all [Continuation.read]
  | unclosed noOperator noClosing =>
    cases t with
    | nil => simp [Continuation.read]
    | cons a t =>
      have missing : Operator.ofChar? a = none := bind_ofChar?_eq_none_iff.2 noOperator
      simp_all [Continuation.read]
  | leftOver noOperator more =>
    cases t with
    | nil => exact absurd rfl more
    | cons a t =>
      have missing : Operator.ofChar? a = none := bind_ofChar?_eq_none_iff.2 noOperator
      simp [Continuation.read, missing]

theorem Takes.read_cons {a : Char} (takes : Takes k [a] next) (other : isNumeric a = false) :
    k.read (a :: t) = moved 1 (next.read t) :=
  takes.read (apart_of_not_numeric other t)

/-- Where a factor comes next, something is consumed or the reading fails. -/
theorem takes_or_fails_factor (levels : List (α → Group α)) (take : α → Group α) (t : Text) :
    (∃ u rest next, t = u ++ rest ∧ u ≠ [] ∧ Apart u rest ∧ Takes (factor levels take) u next) ∨
      ∃ e, Fails (factor levels take) t e := by
  have single {a : Char} {next : Continuation α} (other : isNumeric a = false)
      (takes : Takes (factor levels take) [a] next) (t : Text) :
      ∃ u rest next, a :: t = u ++ rest ∧ u ≠ [] ∧ Apart u rest ∧
        Takes (factor levels take) u next :=
    ⟨[a], t, next, rfl, by simp, apart_of_not_numeric other t, takes⟩
  cases t with
  | nil => exact .inr ⟨_, .noFactor (by simp) (by simp) rfl⟩
  | cons a t =>
    by_cases plus : a = '+'
    · exact .inl (plus ▸ single (by decide) .plus t)
    by_cases minus : a = '-'
    · exact .inl (minus ▸ single (by decide) .minus t)
    by_cases opening : a = '('
    · exact .inl (opening ▸ single (by decide) .opening t)
    by_cases numeric : isNumeric a = true
    · have split := List.takeWhile_append_dropWhile (p := isNumeric) (l := a :: t)
      have nonempty : (a :: t).takeWhile isNumeric ≠ [] := by simp [numeric]
      have all : ∀ b ∈ (a :: t).takeWhile isNumeric, isNumeric b = true :=
        fun b => List.mem_takeWhile_imp
      have apart : Apart ((a :: t).takeWhile isNumeric) ((a :: t).dropWhile isNumeric) := by
        intro _ b first
        have stop := List.head?_dropWhile_not isNumeric (a :: t)
        rwa [first] at stop
      cases found : (Arithmetic.literal ((a :: t).takeWhile isNumeric) : Option α) with
      | some value => exact .inl ⟨_, _, _, split.symm, nonempty, apart, .number nonempty all found⟩
      | none =>
        have fails : Fails (factor levels take) (_ ++ _) _ := .noLiteral nonempty all apart found
        rw [split] at fails
        exact .inr ⟨_, fails⟩
    · exact .inr ⟨_, .noFactor (by simp [plus, minus]) (by simp [opening])
        (by simpa using numeric)⟩

/-- Behind a factor the text ends with the expression, something is consumed or the reading
fails. -/
theorem takes_or_fails_behind (levels : List (α → Group α)) (group : Group α) (t : Text) :
    levels = [] ∧ t = [] ∨
      (∃ a rest next, t = a :: rest ∧ isNumeric a = false ∧ Takes (behind levels group) [a] next) ∨
      ∃ e, Fails (behind levels group) t e := by
  by_cases operator : ∃ op, t.head? = some (Operator.symbol op)
  · obtain ⟨op, first⟩ := operator
    obtain ⟨rest, rfl⟩ := List.head?_eq_some_iff.1 first
    exact .inr (.inl ⟨_, rest, _, rfl, isNumeric_symbol op, .operator op⟩)
  · have noOperator := not_exists.1 operator
    cases levels with
    | nil =>
      by_cases more : t = []
      · exact .inl ⟨rfl, more⟩
      · exact .inr (.inr ⟨_, .leftOver noOperator more⟩)
    | cons take levels =>
      by_cases closing : t.head? = some ')'
      · obtain ⟨rest, rfl⟩ := List.head?_eq_some_iff.1 closing
        exact .inr (.inl ⟨_, rest, _, rfl, by decide, .closing⟩)
      · exact .inr (.inr ⟨_, .unclosed noOperator closing⟩)

/-- A text is consumed piece by piece, until it ends with the expression or cannot be read on. -/
@[elab_as_elim]
theorem read_induction {motive : Continuation α → Text → Prop}
    (takes : ∀ {k u next rest}, Takes k u next → Apart u rest → motive next rest →
      motive k (u ++ rest))
    (value : ∀ group, motive (behind [] group) [])
    (fails : ∀ {k t e}, Fails k t e → motive k t) (k : Continuation α) (t : Text) : motive k t := by
  -- On the length of the text, for a run of digits is consumed in one piece.
  induction size : t.length using Nat.strong_induction_on generalizing k t with | _ n ih =>
  subst size
  cases k with
  | factor levels take =>
    rcases takes_or_fails_factor levels take t with ⟨u, rest, next, rfl, nonempty, apart, taken⟩ |
      ⟨e, failure⟩
    · have shorter : rest.length < (u ++ rest).length := by
        simpa using List.length_pos_iff.2 nonempty
      exact takes taken apart (ih _ shorter next rest rfl)
    · exact fails failure
  | behind levels group =>
    rcases takes_or_fails_behind levels group t with
      ⟨rfl, rfl⟩ | ⟨a, rest, next, rfl, other, taken⟩ | ⟨e, failure⟩
    · exact value group
    · exact takes taken (apart_of_not_numeric other rest) (ih _ (by simp) next rest rfl)
    · exact fails failure

/-- Signs count by their parity alone, whatever takes the factor behind them. -/
theorem read_signs (involutive : ∀ x : α, Arithmetic.negate (Arithmetic.negate x) = x)
    {levels : List (α → Group α)} {take : α → Group α} {run : Text}
    (signs : ∀ a ∈ run, a = '+' ∨ a = '-') :
    (factor levels take).read (run ++ t) = moved run.length
      ((factor levels fun x => take (Arithmetic.withSign (negates run) x)).read t) := by
  induction run generalizing take with
  | nil => exact (moved_zero _).symm
  | cons a run ih =>
    have behind (take : α → Group α) := @ih take fun b member => signs b (.tail a member)
    rcases signs a List.mem_cons_self with rfl | rfl
    · rw [List.cons_append, read, if_pos rfl, behind]
      simp [Nat.add_comm]
    · have twice (x : α) : Arithmetic.negate (Arithmetic.withSign (negates run) x) =
          Arithmetic.withSign (!negates run) x := by
        cases negates run with
        | false => rfl
        | true => exact involutive x
      rw [List.cons_append, read, if_neg (by decide), if_pos rfl, behind]
      simp [twice, Nat.add_comm]

end Continuation

/-! ## Readings -/

namespace Group

variable {α : Type}

/-- The group apart from its sign. -/
def unsigned (group : Group α) : Group α := { group with negate := false }

variable [Arithmetic α]

theorem unsigned_addFactor (group : Group α) (value : α) :
    (group.addFactor value).unsigned = group.unsigned.addFactor value := by
  cases group with | mk negate total addOp product mulOp => cases mulOp <;> rfl

theorem unsigned_addOperator (group : Group α) (op : Operator) :
    (group.addOperator op).unsigned = group.unsigned.addOperator op := by
  cases group with | mk negate total addOp product mulOp => cases op <;> cases addOp <;> rfl

@[simp] theorem result_unsigned (group : Group α) : group.unsigned.result = group.result := by
  cases group with | mk negate total addOp product mulOp => cases addOp <;> rfl

end Group

variable {α : Type} [Arithmetic α]

namespace Reading

/-- What the groups of a stack become with the value of the group inside. -/
def levels : List (Group α) → Group α → List (α → Group α)
  | [], _ => []
  | outer :: stack, group =>
    (fun x => outer.unsigned.addFactor (group.signed x)) :: levels stack outer

/-- Of the group inside only its sign counts for the groups around it. -/
theorem levels_congr {group group' : Group α} (same : group.negate = group'.negate)
    (stack : List (Group α)) : levels stack group = levels stack group' := by
  cases stack with
  | nil => rfl
  | cons outer stack => simp only [levels, Group.signed_eq, same]

/-- What the reading holds. -/
def continuation : Reading α → Continuation α
  | factor stack group _ => .factor (levels stack group) group.unsigned.addFactor
  | behind stack group value _ => .behind (levels stack group) (group.addFactor value).unsigned

/-- The outcome of the rest of the text, in its place. -/
def outcome (r : Reading α) : Except ParseError α :=
  moved r.cursor.pos (r.continuation.read r.cursor.rest)

end Reading

/-- The outcome to which the progress leads. -/
def Progress.outcome : Progress α → Except ParseError α
  | next r => r.outcome
  | stop (.ok x) c => if c.atEnd then .ok x else .error (.unexpectedCharacter c.pos c.char)
  | stop (.error e) _ => .error e

namespace Reading

theorem outcome_factor (involutive : ∀ x : α, Arithmetic.negate (Arithmetic.negate x) = x)
    {stack : List (Group α)} {group : Group α} {c d : Cursor} {run : Text}
    (signs : SignRun c run d) :
    (factor stack group c).outcome = moved d.pos ((Continuation.factor (levels stack group)
      fun x => group.unsigned.addFactor (Arithmetic.withSign (negates run) x)).read d.rest) := by
  rw [outcome, cursor, continuation, signs.rest_eq,
    Continuation.read_signs involutive signs.signs, moved_moved, signs.forward, pos_forward]

/-- Every step keeps the outcome. -/
theorem outcome_of_move (involutive : ∀ x : α, Arithmetic.negate (Arithmetic.negate x) = x)
    {r : Reading α} {p : Progress α} (move : Move r p) : r.outcome = p.outcome := by
  cases move with
  | opening signs here =>
    rw [outcome_factor involutive signs, rest_eq_cons_iff.1 here,
      Continuation.Takes.opening.read_cons (by decide), moved_moved]
    rfl
  | @literal stack group c run d value signs here found =>
    rw [outcome_factor involutive signs, ← d.run_append_rest_skip isNumeric,
      (Continuation.Takes.number (run_ne_nil here) (fun a => of_mem_run) found).read
        (fun _ a first => eq_false_of_char_skip first),
      moved_moved, ← Group.unsigned_addFactor]
    rfl
  | @noLiteral stack group c run d signs here valueless =>
    rw [outcome_factor involutive signs, ← d.run_append_rest_skip isNumeric,
      (Continuation.Fails.noLiteral (run_ne_nil here) (fun a => of_mem_run)
        (fun _ a first => eq_false_of_char_skip first) valueless).read]
    rfl
  | noFactor signs noGroup noNumber =>
    rw [outcome_factor involutive signs,
      (Continuation.Fails.noFactor signs.stop noGroup noNumber).read]
    rfl
  | @operator stack group value c op here =>
    have same : ((group.addFactor value).addOperator op).negate = group.negate := by simp
    rw [outcome, cursor, continuation, rest_eq_cons_iff.1 here,
      (Continuation.Takes.operator op).read_cons (isNumeric_symbol op), moved_moved,
      ← Group.unsigned_addOperator, levels_congr same.symm]
    rfl
  | @result group value c noOperator =>
    rw [outcome, cursor, continuation, levels, Progress.outcome]
    cases left : c.rest with
    | nil => simp [Continuation.read, atEnd, left]
    | cons a t =>
      rw [← left, (Continuation.Fails.leftOver noOperator (by simp [left])).read]
      simp [atEnd, left, Cursor.char, ParseError.forward]
  | @closing outer stack group value c here =>
    rw [outcome, cursor, continuation, levels, rest_eq_cons_iff.1 here,
      Continuation.Takes.closing.read_cons (by decide), moved_moved, Group.result_unsigned,
      ← Group.unsigned_addFactor, Group.signed_eq, ← Group.negate_addFactor group value]
    rfl
  | unclosed noOperator noClosing =>
    rw [outcome, cursor, continuation, levels,
      (Continuation.Fails.unclosed noOperator noClosing).read]
    rfl

end Reading

/-- What is left of the reading of an expression before its first step. -/
def Continuation.start : Continuation α := .factor [] (Group.opened false).addFactor

/-- The run gives what reading the text gives, in which no place is known. -/
theorem evaluate_eq_read (involutive : ∀ x : α, Arithmetic.negate (Arithmetic.negate x) = x)
    (t : Text) :
    evaluate t = (Continuation.start : Continuation α).read (Text.strip t) := by
  let r : Reading α := .factor [] (.opened false) (Cursor.start (Text.strip t))
  have before : r.outcome = Continuation.start.read (Text.strip t) := moved_zero _
  obtain ⟨s, same, stop⟩ := Reading.exists_stop_of_invariant (fun s => r.outcome = s.outcome)
    (fun same move => same.trans (Reading.outcome_of_move involutive move)) (r := r)
    (Cursor.spaceless_start_strip t) rfl
  rw [← before, same, Reading.outcome_of_move involutive stop, evaluate, Cursor.expression]
  cases r.run with
  | mk outcome c => cases outcome <;> rfl

end Calculator
