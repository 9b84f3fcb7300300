import Calculator.Proofs.ErrorPlace

/-!
No parentheses are counted while a text is read, and nothing is looked at twice. Still the kind of
an error is a fact about the text before its place: about the parentheses that are open there and
about the last character. Both follow from what completes the reading: a text that can be completed
is balanced, and wherever it is cut before a character that belongs to no number, the last character
tells what comes next.
-/

namespace Calculator

open Cursor

namespace Text

/-- How many opening parentheses there are more than closing ones. -/
def balance (t : Text) : Int := t.count '(' - t.count ')'

@[simp] theorem balance_append (s t : Text) : balance (s ++ t) = balance s + balance t := by
  simp only [balance, List.count_append]
  omega

@[simp] theorem balance_opening (t : Text) : balance ('(' :: t) = balance t + 1 := by
  simp only [balance, List.count_cons_self, List.count_cons_of_ne (by decide : '(' ≠ ')')]
  omega

@[simp] theorem balance_closing (t : Text) : balance (')' :: t) = balance t - 1 := by
  simp only [balance, List.count_cons_self, List.count_cons_of_ne (by decide : ')' ≠ '(')]
  omega

theorem balance_cons {a : Char} (noOpening : a ≠ '(') (noClosing : a ≠ ')') (t : Text) :
    balance (a :: t) = balance t := by
  simp only [balance, List.count_cons_of_ne noOpening, List.count_cons_of_ne noClosing]

theorem balance_eq_zero {t : Text} (noOpening : '(' ∉ t) (noClosing : ')' ∉ t) :
    balance t = 0 := by
  rw [balance, List.count_eq_zero.2 noOpening, List.count_eq_zero.2 noClosing]
  rfl

theorem balance_of_numeric {t : Text} (numeric : ∀ a ∈ t, isNumeric a = true) : balance t = 0 :=
  balance_eq_zero (fun member => absurd (numeric _ member) (by decide))
    (fun member => absurd (numeric _ member) (by decide))

end Text

namespace Completes

variable {stage : Stage} {depth : Nat} {t u w : Text}

/-- What completes a reading closes the groups that are open, and no others. -/
theorem depth_add_balance (completes : Completes stage depth t) :
    depth + Text.balance t = 0 := by
  induction completes with
  | sign isSign _ ih =>
    rcases isSign with rfl | rfl <;> rwa [Text.balance_cons (by decide) (by decide)]
  | opening _ ih =>
    rw [Text.balance_opening]
    omega
  | number plain _ ih =>
    rw [Text.balance_append, Text.balance_of_numeric plain.isNumeric]
    omega
  | operator op _ ih =>
    cases op <;> rwa [Operator.symbol, Text.balance_cons (by decide) (by decide)]
  | closing _ ih =>
    rw [Text.balance_closing]
    omega
  | finish => rfl

end Completes

/-- A text with this last character leads to the stage. -/
def Stage.Behind : Stage → (last : Char) → Prop
  | factor, last => last = '+' ∨ last = '-' ∨ last = '*' ∨ last = '/' ∨ last = '('
  | behind, last => isNumeric last = true ∨ last = ')'

theorem Stage.behind_sign {a : Char} (isSign : a = '+' ∨ a = '-') : factor.Behind a := by
  rcases isSign with rfl | rfl <;> simp [Behind]

theorem Stage.behind_opening : factor.Behind '(' := by simp [Behind]

theorem Stage.behind_symbol (op : Operator) : factor.Behind op.symbol := by
  cases op <;> simp [Behind, Operator.symbol]

theorem Stage.behind_numeric {a : Char} (numeric : isNumeric a = true) : behind.Behind a :=
  .inl numeric

theorem Stage.behind_closing : behind.Behind ')' := .inr rfl

/-- The last character tells the two stages apart. -/
theorem Stage.not_behind_of_factor {last : Char} (first : factor.Behind last) :
    ¬ behind.Behind last := by
  change ¬ (isNumeric last = true ∨ last = ')')
  rcases first with rfl | rfl | rfl | rfl | rfl <;> decide

/-- The text leads from one stage to another, as its last character tells. -/
def Stage.Leads (stage : Stage) (u : Text) (next : Stage) : Prop :=
  u = [] ∧ stage = next ∨ ∃ v last, u = v ++ [last] ∧ next.Behind last

theorem Stage.Leads.append {stage between next : Stage} {u v : Text} {last : Char}
    (first : between.Behind last) (second : between.Leads u next) :
    stage.Leads (v ++ [last] ++ u) next := by
  rcases second with ⟨rfl, rfl⟩ | ⟨w, last', rfl, behind⟩
  · exact .inr ⟨v, last, List.append_nil _, first⟩
  · exact .inr ⟨v ++ [last] ++ w, last', (List.append_assoc ..).symm, behind⟩

/-- A run stands whole before a character that is none of its own. -/
theorem exists_append_of_run {p : Char → Bool} {run t u w : Text} {b : Char}
    (all : ∀ a ∈ run, p a = true) (other : p b = false) (whole : run ++ t = u ++ b :: w) :
    ∃ v, u = run ++ v ∧ t = v ++ b :: w := by
  rcases List.append_eq_append_iff.1 whole with ⟨v, before, after⟩ | ⟨v, before, after⟩
  · exact ⟨v, before, after⟩
  · cases v with
    | nil => exact ⟨[], by simpa using before.symm, by simpa using after.symm⟩
    | cons a v =>
      obtain ⟨rfl, _⟩ := List.cons.inj after
      have inside := all b (before ▸ by simp)
      rw [other] at inside
      cases inside

namespace Completes

variable {stage : Stage} {depth : Nat} {t u w : Text} {b : Char}

/-- A completion goes on behind the text. -/
def GoesOn (stage : Stage) (u t : Text) : Prop :=
  ∃ next depth, stage.Leads u next ∧ Completes next depth t

theorem GoesOn.cons {a : Char} {between : Stage} (behind : between.Behind a)
    (completes : Completes stage depth (a :: t))
    (rest : ∀ {u}, t = u ++ b :: w → GoesOn between u (b :: w)) (whole : a :: t = u ++ b :: w) :
    GoesOn stage u (b :: w) := by
  cases u with
  | nil =>
    rw [whole] at completes
    exact ⟨stage, depth, .inl ⟨rfl, rfl⟩, completes⟩
  | cons a' u =>
    cases whole
    obtain ⟨next, depth', leads, left⟩ := rest rfl
    exact ⟨next, depth', .append (v := []) behind leads, left⟩

/-- Where a completion is cut before a character that belongs to no number, a completion is left. -/
theorem goesOn (completes : Completes stage depth (u ++ b :: w)) (other : isNumeric b = false) :
    GoesOn stage u (b :: w) := by
  generalize whole : u ++ b :: w = t at completes
  replace whole := whole.symm
  induction completes generalizing u with
  | sign isSign rest ih => exact .cons (Stage.behind_sign isSign) (.sign isSign rest) ih whole
  | opening rest ih => exact .cons Stage.behind_opening (.opening rest) ih whole
  | number plain rest ih =>
    -- No cut goes through a number, for the character behind the cut belongs to none.
    obtain ⟨v, rfl, after⟩ := exists_append_of_run plain.isNumeric other whole
    obtain ⟨next, depth', leads, left⟩ := ih after
    obtain ⟨digits, last, rfl⟩ := (List.eq_nil_or_concat' _).resolve_left plain.ne_nil
    have numeric : isNumeric last = true := plain.isNumeric last (by simp)
    exact ⟨next, depth', .append (Stage.behind_numeric numeric) leads, left⟩
  | operator op rest ih => exact .cons (Stage.behind_symbol op) (.operator op rest) ih whole
  | closing rest ih => exact .cons Stage.behind_closing (.closing rest) ih whole
  | finish => simp at whole

/-- A completion whose first character shows the stage. -/
theorem exists_completes_showing (stage : Stage) (depth : Nat) :
    ∃ b w, Completes stage depth (b :: w) ∧ isNumeric b = false ∧
      ∀ {next depth'}, Completes next depth' (b :: w) → next = stage := by
  cases stage with
  | factor =>
    obtain ⟨w, completes, _⟩ := exists_completes .factor (depth + 1)
    refine ⟨'(', w, .opening completes, by decide, fun {next depth'} other => ?_⟩
    cases next with
    | factor => rfl
    | behind =>
      rcases other.head_behind with ⟨op, symbol, _⟩ | ⟨_, _, closing, _⟩
      · exact absurd symbol (by cases op <;> decide)
      · exact absurd closing (by decide)
  | behind =>
    obtain ⟨w, completes, _⟩ := exists_completes .factor depth
    refine ⟨'*', w, .operator .multiply completes, by decide, fun {next depth'} other => ?_⟩
    cases next with
    | factor =>
      obtain ⟨a, head, start⟩ := other.exists_head_factor
      cases head
      exact absurd start (by decide)
    | behind => rfl

end Completes

/-! ## The text that a reading has consumed -/

namespace Reading

variable {α : Type} {r s : Reading α} {t u : Text}

/-- The last character that has been consumed tells what comes next. -/
theorem Consumes.leads (consumes : Consumes r u s) : r.stage.Leads u s.stage := by
  -- The reading itself remembers no character; what completes it behind `u` tells them all.
  obtain ⟨b, w, completes, other, shows⟩ := Completes.exists_completes_showing s.stage s.depth
  obtain ⟨next, depth, leads, left⟩ := Completes.goesOn (consumes.completedBy completes) other
  rwa [shows left] at leads

/-- The groups that are open are the parentheses that have been consumed and not closed. -/
theorem Consumes.depth_add_balance (consumes : Consumes r u s) :
    r.depth + Text.balance u = s.depth := by
  obtain ⟨w, completes, _⟩ := Completes.exists_completes s.stage s.depth
  have whole := (consumes.completedBy completes).depth_add_balance
  have rest := completes.depth_add_balance
  rw [Text.balance_append] at whole
  omega

variable {e : ParseError}

/-- A literal is refused where a factor comes next and a run of digits and points begins. -/
theorem FailsWith.invalidNumberLiteral_iff (fails : s.FailsWith e) :
    e.kind = .invalidNumberLiteral ↔
      s.stage = .factor ∧ ∃ a, s.cursor.char = some a ∧ isNumeric a = true := by
  cases fails with
  | noLiteral here => exact iff_of_true rfl ⟨rfl, (Option.any_eq_true ..).1 here⟩
  | @noFactor stack group c noSign noGroup noNumber =>
    refine iff_of_false (by simp [ParseError.kind]) fun ⟨_, numeric⟩ => ?_
    have numeric : c.char.any isNumeric = true := (Option.any_eq_true ..).2 numeric
    rw [noNumber] at numeric
    cases numeric
  | unclosed => exact iff_of_false (by simp [ParseError.kind]) (by simp [stage])
  | leftOver => exact iff_of_false (by simp [ParseError.kind]) (by simp [stage])

/-- A parenthesis is missed where a failure is behind a factor in a group. -/
theorem FailsWith.mismatchedParentheses_iff (fails : s.FailsWith e) :
    e.kind = .mismatchedParentheses ↔ 0 < s.depth ∧ s.stage = .behind := by
  cases fails <;> simp [ParseError.kind, stage, depth]

theorem FailsWith.char_of_mismatchedParentheses (fails : s.FailsWith e)
    (kind : e.kind = .mismatchedParentheses) :
    (∀ op, s.cursor.char ≠ some (Operator.symbol op)) ∧ s.cursor.char ≠ some ')' := by
  cases fails with
  | unclosed noOperator noClosing => exact ⟨noOperator, noClosing⟩
  | _ => cases kind

theorem FailsWith.char_of_unexpectedCharacter (fails : s.FailsWith e)
    (kind : e.kind = .unexpectedCharacter) :
    (s.stage = .factor ∧ (s.cursor.char ≠ some '+' ∧ s.cursor.char ≠ some '-') ∧
        s.cursor.char ≠ some '(' ∧ s.cursor.char.any isNumeric = false) ∨
      s.depth = 0 ∧ s.cursor.char ≠ none ∧ s.stage = .behind ∧
        ∀ op, s.cursor.char ≠ some (Operator.symbol op) := by
  cases fails with
  | noFactor noSign noGroup noNumber => exact .inl ⟨rfl, noSign, noGroup, noNumber⟩
  | leftOver noOperator more => exact .inr ⟨rfl, more, rfl, noOperator⟩
  | _ => cases kind

theorem FailsWith.literal_eq {literal : Text} {position : Nat}
    (fails : s.FailsWith (.invalidNumberLiteral literal position)) :
    literal = s.cursor.rest.takeWhile isNumeric ∧
      ((∀ a ∈ literal, a.isDigit = false) ∨ 2 ≤ literal.count '.') := by
  cases fails with
  | @noLiteral stack group c here notPlain =>
    refine ⟨rfl, or_iff_not_imp_right.2 fun points a member => Bool.eq_false_iff.2 fun digit => ?_⟩
    refine notPlain ⟨fun b inside => ?_, ⟨a, member, digit⟩, by omega⟩
    simpa [isNumeric] using of_mem_run inside

end Reading

/-- Where a factor begins: at the start, or behind an operator, a sign or an opening parenthesis. -/
def FactorAt (s : Text) (place : Nat) : Prop :=
  place = 0 ∨ ∃ last, s[place - 1]? = some last ∧ Stage.factor.Behind last

/-- Where a factor has ended: behind a digit, a point or a closing parenthesis. -/
def FactorBefore (s : Text) (place : Nat) : Prop :=
  0 < place ∧ ∃ last, s[place - 1]? = some last ∧ Stage.behind.Behind last

theorem FactorAt.not_factorBefore {s : Text} {place : Nat} (factor : FactorAt s place) :
    ¬ FactorBefore s place := by
  rintro ⟨positive, last, here, behind⟩
  rcases factor with rfl | ⟨last', here', factor⟩
  · exact absurd positive (Nat.lt_irrefl 0)
  · cases here.symm.trans here'
    exact Stage.not_behind_of_factor factor behind

namespace Stage.Leads

variable {u : Text} {next : Stage}

theorem factorAt (leads : factor.Leads u factor) (t : Text) : FactorAt (u ++ t) u.length := by
  rcases leads with ⟨rfl, _⟩ | ⟨v, last, rfl, behind⟩
  · exact .inl rfl
  · exact .inr ⟨last, by simp, behind⟩

theorem factorBefore (leads : factor.Leads u behind) (t : Text) :
    FactorBefore (u ++ t) u.length := by
  rcases leads with ⟨_, other⟩ | ⟨v, last, rfl, behind⟩
  · cases other
  · exact ⟨by simp, last, by simp, behind⟩

/-- From the start of a text, its last character tells whether a factor comes next. -/
theorem factorAt_iff (leads : factor.Leads u next) (t : Text) :
    FactorAt (u ++ t) u.length ↔ next = factor := by
  cases next with
  | factor => exact iff_of_true (leads.factorAt t) rfl
  | behind =>
    exact iff_of_false (fun begins => begins.not_factorBefore (leads.factorBefore t)) (by simp)

theorem factorBefore_iff (leads : factor.Leads u next) (t : Text) :
    FactorBefore (u ++ t) u.length ↔ next = behind := by
  cases next with
  | factor => exact iff_of_false (leads.factorAt t).not_factorBefore (by simp)
  | behind => exact iff_of_true (leads.factorBefore t) rfl

end Stage.Leads

/-- What the text says of its error: the kind goes by what is before the place, and the character at
the place cannot go on with it. -/
structure ParseError.Decided (s : Text) (e : ParseError) : Prop where
  balance_nonneg : 0 ≤ Text.balance (s.take e.position)
  invalidNumberLiteral_iff : e.kind = .invalidNumberLiteral ↔
    FactorAt s e.position ∧ ∃ a, s[e.position]? = some a ∧ isNumeric a = true
  /-- The literal is the whole run of digits and points at the place. -/
  literal : ∀ {literal position}, e = .invalidNumberLiteral literal position →
    literal = (s.drop position).takeWhile isNumeric ∧
      ((∀ a ∈ literal, a.isDigit = false) ∨ 2 ≤ literal.count '.')
  mismatchedParentheses_iff : e.kind = .mismatchedParentheses ↔
    0 < Text.balance (s.take e.position) ∧ FactorBefore s e.position
  unclosed : e.kind = .mismatchedParentheses →
    (∀ op, s[e.position]? ≠ some (Operator.symbol op)) ∧ s[e.position]? ≠ some ')'
  /-- Every other error is an unexpected character. -/
  unexpectedCharacter_iff : e.kind = .unexpectedCharacter ↔
    ¬ (FactorAt s e.position ∧ ∃ a, s[e.position]? = some a ∧ isNumeric a = true) ∧
      ¬ (0 < Text.balance (s.take e.position) ∧ FactorBefore s e.position)
  /-- No factor begins with the character, or the character is left over behind an expression. -/
  unexpected : e.kind = .unexpectedCharacter →
    (FactorAt s e.position ∧ (s[e.position]? ≠ some '+' ∧ s[e.position]? ≠ some '-') ∧
        s[e.position]? ≠ some '(' ∧ s[e.position]?.any isNumeric = false) ∨
      Text.balance (s.take e.position) = 0 ∧ e.position < s.length ∧ FactorBefore s e.position ∧
        ∀ op, s[e.position]? ≠ some (Operator.symbol op)

/-- The text before an error decides which kind of error it is. -/
theorem decided_of_error {t : Text} {e : ParseError}
    (raised : (evaluate t : Except ParseError Float) = .error e) : e.Decided (Text.strip t) := by
  obtain ⟨u, s, consumes, fails⟩ := exists_failure raised
  have place : e.position = u.length := fails.position_eq.trans consumes.pos_eq
  have before : (Text.strip t).take e.position = u := by
    rw [place, consumes.strip_eq, List.take_left]
  have char : (Text.strip t)[e.position]? = s.cursor.char := by
    rw [place, consumes.strip_eq, Cursor.char, List.getElem?_append_right (le_refl _),
      Nat.sub_self, List.head?_eq_getElem?]
  have balance : Text.balance u = s.depth := by
    rw [← consumes.depth_add_balance]
    exact (Int.zero_add _).symm
  have factorAt : FactorAt (Text.strip t) e.position ↔ s.stage = .factor := by
    rw [place, consumes.strip_eq]
    exact consumes.leads.factorAt_iff _
  have factorBefore : FactorBefore (Text.strip t) e.position ↔ s.stage = .behind := by
    rw [place, consumes.strip_eq]
    exact consumes.leads.factorBefore_iff _
  have invalid : e.kind = .invalidNumberLiteral ↔ FactorAt (Text.strip t) e.position ∧
      ∃ a, (Text.strip t)[e.position]? = some a ∧ isNumeric a = true := by
    rw [factorAt, char]
    exact fails.invalidNumberLiteral_iff
  have mismatched : e.kind = .mismatchedParentheses ↔
      0 < Text.balance ((Text.strip t).take e.position) ∧
        FactorBefore (Text.strip t) e.position := by
    rw [factorBefore, before, balance, Int.natCast_pos]
    exact fails.mismatchedParentheses_iff
  constructor
  case balance_nonneg =>
    rw [before, balance]
    exact Int.natCast_nonneg _
  case invalidNumberLiteral_iff => exact invalid
  case literal =>
    rintro literal position rfl
    have place : position = s.cursor.pos := fails.position_eq
    rw [place, consumes.drop_eq]
    exact fails.literal_eq
  case mismatchedParentheses_iff => exact mismatched
  case unclosed =>
    rw [char]
    exact fails.char_of_mismatchedParentheses
  case unexpectedCharacter_iff =>
    rw [← invalid, ← mismatched]
    cases e <;> simp [ParseError.kind]
  case unexpected =>
    have inside : e.position < (Text.strip t).length ↔ s.cursor.char ≠ none := by
      rw [← char, ne_eq, List.getElem?_eq_none_iff, not_le]
    rw [factorAt, factorBefore, before, balance, char, inside, Int.natCast_eq_zero]
    exact fails.char_of_unexpectedCharacter

/-- A balanced text with a group that is not closed where it has to be, and a parenthesis that
closes nothing. -/
theorem decided_of_error_parentheses :
    ((evaluate "-(1 + 2 (3))".toList : Except ParseError Float) =
        .error (.mismatchedParentheses 5 (some '(')) ∧
      ParseError.Decided "-(1+2(3))".toList (.mismatchedParentheses 5 (some '('))) ∧
    ((evaluate "(1) ) + 2".toList : Except ParseError Float) =
        .error (.unexpectedCharacter 3 (some ')')) ∧
      ParseError.Decided "(1))+2".toList (.unexpectedCharacter 3 (some ')'))) := by
  have unclosed : (evaluate "-(1 + 2 (3))".toList : Except ParseError Float) =
      .error (.mismatchedParentheses 5 (some '(')) := by decide +kernel
  have unopened : (evaluate "(1) ) + 2".toList : Except ParseError Float) =
      .error (.unexpectedCharacter 3 (some ')')) := by decide +kernel
  exact ⟨⟨unclosed, decided_of_error unclosed⟩, ⟨unopened, decided_of_error unopened⟩⟩

end Calculator
