import Calculator.Expression.Tree
import Calculator.Proofs.Descent
import Calculator.Proofs.Grammar

/-!
A tree that is written at some level and read at that level gives its value to the loop of the level
that goes on behind it: a chain hands the value of its left part on, so the shape of the tree is the
shape of the fold.
-/

namespace Calculator

open Cursor

variable {α : Type} [Arithmetic α]

namespace Descent

variable (α) in
/-- What a level reads at a cursor. -/
def readAt : Level → Cursor → Except ParseError (α × Cursor)
  | .expression, c => expressionAt α c
  | .term, c => termAt α c
  | .factor, c => factorAt α c

/-- What a level does behind a first operand. -/
def resumeAt : Level → α → Cursor → Except ParseError (α × Cursor)
  | .expression, value, c => sumFrom value c
  | .term, value, c => productFrom value c
  | .factor, value, c => .ok (value, c)

/-- Nothing that follows is taken for a part of the last operand. -/
structure Delimits (level : Level) (c : Cursor) : Prop where
  noNumber : c.char.any isNumeric = false
  noProduct : level = .expression → ∀ op, c.char = some (Operator.symbol op) → op.isProduct = false

theorem Delimits.tighten {outer inner : Level} {c : Cursor} (delimits : Delimits outer c)
    (tighter : outer.rank ≤ inner.rank) : Delimits inner c := by
  refine ⟨delimits.noNumber, ?_⟩
  rintro rfl
  apply delimits.noProduct
  cases outer with
  | expression => rfl
  | term => exact absurd tighter (by decide)
  | factor => exact absurd tighter (by decide)

theorem delimits_of_noOperator {level : Level} {c : Cursor}
    (noNumber : c.char.any isNumeric = false)
    (noOperator : ∀ op, c.char ≠ some (Operator.symbol op)) : Delimits level c :=
  ⟨noNumber, fun _ op here => absurd here (noOperator op)⟩

theorem delimits_operator {op : Operator} {c : Cursor} (here : c.char = some op.symbol) :
    Delimits op.level c := by
  refine ⟨by rw [here]; exact isNumeric_symbol op, ?_⟩
  intro adds op' here'
  obtain rfl := operator_unique here here'
  cases op' with
  | add | subtract => rfl
  | multiply | divide => cases adds

theorem termAt_of_factorAt {c d : Cursor} {value : α} (read : factorAt α c = .ok (value, d)) :
    termAt α c = productFrom value d := by
  rw [termAt_eq, read]
  rfl

theorem expressionAt_of_termAt {c d : Cursor} {value : α} (delimits : Delimits .expression d)
    (read : termAt α c = productFrom value d) : expressionAt α c = sumFrom value d := by
  rw [expressionAt_eq, read, productFrom_stop (delimits.noProduct rfl)]
  rfl

/-- What is read at a level is read at a looser one as well, where the loops of the levels between
find nothing. -/
theorem readAt_weaken {outer inner : Level} (tighter : outer.rank ≤ inner.rank) {c d : Cursor}
    {value : α} (delimits : Delimits outer d) (read : readAt α inner c = resumeAt inner value d) :
    readAt α outer c = resumeAt outer value d := by
  cases inner with
  | expression =>
    cases outer with
    | expression => exact read
    | term | factor => exact absurd tighter (by decide)
  | term =>
    cases outer with
    | expression => exact expressionAt_of_termAt delimits read
    | term => exact read
    | factor => exact absurd tighter (by decide)
  | factor =>
    cases outer with
    | expression => exact expressionAt_of_termAt delimits (termAt_of_factorAt read)
    | term => exact termAt_of_factorAt read
    | factor => exact read

/-- A level goes on with an operator of its own. -/
theorem resumeAt_operator {op : Operator} {value : α} {c : Cursor}
    (here : c.char = some op.symbol) :
    resumeAt op.level value c =
      readAt α op.operandLevel c.advance >>= fun p =>
        resumeAt op.level (Arithmetic.apply value op p.1) p.2 := by
  cases op with
  | add => exact sumFrom_operator here rfl
  | subtract => exact sumFrom_operator here rfl
  | multiply => exact productFrom_operator here rfl
  | divide => exact productFrom_operator here rfl

theorem resumeAt_operand {op : Operator} {value : α} {c : Cursor}
    (delimits : Delimits op.level c) :
    resumeAt op.operandLevel value c = .ok (value, c) := by
  rcases op.level_eq with ⟨adds, operand⟩ | ⟨_, operand⟩
  · rw [operand]
    exact productFrom_stop (delimits.noProduct adds)
  · rw [operand]
    rfl

/-! ## Reading what is written -/

theorem factorAt_literal {c d : Cursor} {t : Text} {value : α} (plain : Decimal.IsPlain t)
    (found : Arithmetic.literal t = some value) (spans : Spans c t d)
    (noNumber : d.char.any isNumeric = false) : factorAt α c = .ok (value, d) := by
  have stop : ∀ a, d.rest.head? = some a → isNumeric a = false := by
    intro a first
    have here : d.char = some a := first
    rwa [here] at noNumber
  have same := spans.rest_eq.symm.trans (c.run_append_rest_skip isNumeric).symm
  obtain ⟨run, rest⟩ := run_unique same
    plain.isNumeric (fun a => of_mem_run) stop (fun a => eq_false_of_char_skip)
  have skip : c.skip isNumeric = d := by rw [spans.forward, run, skip]
  have here : c.char.any isNumeric = true := by
    obtain ⟨a, t, rfl⟩ := List.exists_cons_of_ne_nil plain.ne_nil
    rw [(Spans.cons_iff.1 spans).1]
    exact plain.isNumeric a List.mem_cons_self
  rw [factorAt_number here, number, ← run, found, skip]
  rfl

/-- A text in parentheses is a factor whatever is behind it. -/
theorem factorAt_parentheses {c d : Cursor} {t : Text} {value : α}
    (spans : Spans c ('(' :: t ++ [')']) d)
    (read : ∀ {m}, Spans c.advance t m → Delimits .expression m →
      expressionAt α c.advance = sumFrom value m) : factorAt α c = .ok (value, d) := by
  obtain ⟨opening, inside⟩ := Spans.cons_iff.1 spans
  obtain ⟨m, inside, last⟩ := Spans.append_iff.1 inside
  obtain ⟨closing, last⟩ := Spans.cons_iff.1 last
  have noOperator (op : Operator) : m.char ≠ some op.symbol := by
    rw [closing]
    cases op <;> decide
  have delimits : Delimits .expression m :=
    delimits_of_noOperator (by rw [closing]; decide) noOperator
  rw [factorAt_group opening, read inside delimits, sumFrom_of_noOperator noOperator]
  change closeGroup _ = _
  rw [closeGroup, if_pos closing, last.forward]
  rfl

/-- Parentheses are put only where they are needed, and make no difference to the value. -/
theorem readAt_enclose {place own : Level} {c d : Cursor} {t : Text} {value : α}
    (spans : Spans c (Tree.enclose place own t) d) (delimits : Delimits place d)
    (read : ∀ {c d}, Spans c t d → Delimits own d → readAt α own c = resumeAt own value d) :
    readAt α place c = resumeAt place value d := by
  rw [Tree.enclose] at spans
  split at spans
  case isTrue tighter =>
    exact readAt_weaken tighter delimits (read spans (delimits.tighten tighter))
  case isFalse =>
    have factor : readAt α .factor c = resumeAt .factor value d := by
      refine factorAt_parentheses spans fun inside closing => ?_
      exact readAt_weaken (Nat.zero_le _) closing (read inside (closing.tighten (Nat.zero_le _)))
    exact readAt_weaken (by cases place <;> decide) delimits factor

/-- By induction on the tree, with whatever may stand behind it. -/
theorem readAt_write {tree : Tree} (plain : tree.Plain) {value : α}
    (evaluated : tree.value? = some value) {c d : Cursor} (spans : Spans c tree.write d)
    (delimits : Delimits tree.level d) :
    readAt α tree.level c = resumeAt tree.level value d := by
  induction tree generalizing value c d with
  | literal t => exact factorAt_literal plain evaluated spans delimits.noNumber
  | sign negative operand ih =>
    obtain ⟨x, operandValue, same⟩ := Option.bind_eq_some_iff.1 evaluated
    cases same
    obtain ⟨here, spans⟩ := Spans.cons_iff.1 spans
    have read : factorAt α c.advance = .ok (x, d) :=
      readAt_enclose spans delimits fun inside delimits => ih plain operandValue inside delimits
    cases negative with
    | false => exact (factorAt_plus here).trans read
    | true =>
      refine (factorAt_minus here).trans ?_
      rw [read]
      rfl
  | binary left op right ihl ihr =>
    obtain ⟨x, leftValue, evaluated⟩ := Option.bind_eq_some_iff.1 evaluated
    obtain ⟨y, rightValue, same⟩ := Option.bind_eq_some_iff.1 evaluated
    cases same
    obtain ⟨m, before, spans⟩ := Spans.append_iff.1 spans
    obtain ⟨here, behind⟩ := Spans.cons_iff.1 spans
    have delimits : Delimits op.level d := delimits
    -- the left operand hands its value to the loop of this level, which goes on at the operator
    have first : readAt α op.level c = resumeAt op.level x m :=
      readAt_enclose before (delimits_operator here) fun inside delimits =>
        ihl plain.1 leftValue inside delimits
    have second : readAt α op.operandLevel m.advance = resumeAt op.operandLevel y d :=
      readAt_enclose behind (delimits.tighten (by cases op <;> decide)) fun inside delimits =>
        ihr plain.2 rightValue inside delimits
    change readAt α op.level c = _
    rw [first, resumeAt_operator here, second, resumeAt_operand delimits]
    rfl

end Descent

/-- The second text is the first one with separators put into it. -/
inductive Text.Spaced : Text → Text → Prop
  | nil : Spaced [] []
  | char {s t : Text} (a : Char) (spaced : Spaced s t) : Spaced (a :: s) (a :: t)
  | separator {s t : Text} {a : Char} (isSeparator : isSeparator a = true) (spaced : Spaced s t) :
      Spaced s (a :: t)

namespace Text

theorem Spaced.strip_eq {s t : Text} (spaced : Spaced s t) : strip t = strip s := by
  induction spaced with
  | nil => rfl
  | char a _ ih =>
    simp only [strip, List.filter_cons] at ih ⊢
    rw [ih]
  | separator isSeparator _ ih =>
    rw [strip, List.filter_cons, if_neg (by simp [isSeparator])]
    exact ih

theorem spaced_strip (t : Text) : Spaced (strip t) t := by
  induction t with
  | nil => exact .nil
  | cons a t ih =>
    rw [strip, List.filter_cons]
    by_cases separator : isSeparator a = true
    · rw [if_neg (by simp [separator])]
      exact .separator separator ih
    · rw [if_pos (by simp [separator])]
      exact .char a ih

end Text

/-- An expression of the grammar has no separators. -/
theorem Derives.strip_eq {level : Level} {t : Text} (derives : Derives level t) :
    Text.strip t = t := by
  have others : ∀ a ∈ ".+-*/()".toList, Text.isSeparator a = false := by simp [Text.isSeparator]
  apply Text.strip_eq_self
  intro a member
  rcases derives.isDigit_or_mem a member with digit | other
  · exact Text.isSeparator_of_isDigit digit
  · exact others a other

namespace Tree

variable (α) in
theorem exists_value [PlainLiterals α] {tree : Tree} (plain : tree.Plain) :
    ∃ x : α, tree.value? = some x := by
  induction tree with
  | literal t => exact exists_literal α plain
  | sign negative operand ih =>
    obtain ⟨x, value⟩ := ih plain
    exact ⟨_, by rw [value?, value]; rfl⟩
  | binary left op right ihl ihr =>
    obtain ⟨x, leftValue⟩ := ihl plain.1
    obtain ⟨y, rightValue⟩ := ihr plain.2
    exact ⟨_, by rw [value?, leftValue, rightValue]; rfl⟩

end Tree

/-- The text of a tree, with any separators in it, has the value of the tree. -/
theorem evaluate_write {tree : Tree} (plain : tree.Plain) {t : Text}
    (spaced : Text.Spaced tree.write t) :
    ∃ x : Float, tree.value? = some x ∧ evaluate t = .ok x := by
  obtain ⟨x, value⟩ := tree.exists_value Float plain
  refine ⟨x, value, ?_⟩
  have written : Text.strip t = tree.write := by
    rw [spaced.strip_eq, (Tree.derives_write plain).strip_eq]
  have spans : Spans (Cursor.start tree.write) tree.write _ := ⟨by simp, rfl⟩
  have atEnd : ((Cursor.start tree.write).forward tree.write.length).rest = [] := by simp
  generalize (Cursor.start tree.write).forward tree.write.length = d at spans atEnd
  have noOperator (op : Operator) : d.char ≠ some op.symbol := by simp [Cursor.char, atEnd]
  have delimits : Descent.Delimits .expression d :=
    Descent.delimits_of_noOperator (by simp [Cursor.char, atEnd]) noOperator
  have read : Descent.expressionAt Float (Cursor.start tree.write) = .ok (x, d) := by
    have own := Descent.readAt_write plain value spans (delimits.tighten (Nat.zero_le _))
    have whole := Descent.readAt_weaken (Nat.zero_le _) delimits own
    exact whole.trans (Descent.sumFrom_of_noOperator noOperator)
  rw [Descent.evaluate_eq negate_negate, written, read]
  change Descent.closeText _ = _
  rw [Descent.closeText, if_pos (by simp [Cursor.atEnd, atEnd])]

/-- A difference on the right of a difference keeps its parentheses, and so does a quotient behind a
sign. -/
theorem evaluate_write_nested :
    Text.Spaced "(1-(2-3))*-(4/.5)".toList " ( 1-(2 - 3) )\t*-(4/.5)\n".toList ∧
      ∃ x : Float,
        Tree.value? (.binary
          (.binary (.literal ['1']) .subtract
            (.binary (.literal ['2']) .subtract (.literal ['3'])))
          .multiply
          (.sign true (.binary (.literal ['4']) .divide (.literal ['.', '5'])))) = some x ∧
        evaluate " ( 1-(2 - 3) )\t*-(4/.5)\n".toList = .ok x := by
  have spaced : Text.Spaced "(1-(2-3))*-(4/.5)".toList " ( 1-(2 - 3) )\t*-(4/.5)\n".toList :=
    Text.spaced_strip " ( 1-(2 - 3) )\t*-(4/.5)\n".toList
  refine ⟨spaced, evaluate_write ?_ spaced⟩
  simp only [Tree.Plain]
  decide

end Calculator
