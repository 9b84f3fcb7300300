import Calculator.Expression.Chain
import Calculator.Expression.Grammar
import Calculator.Proofs.Completion

/-!
A derivation is a completion with any completion of what is around it. The other way round a
completion begins with an expression, behind which the text ends or a parenthesis closes.
-/

namespace Calculator

theorem Operator.level_eq (op : Operator) :
    (op.level = .expression ∧ op.operandLevel = .term) ∨
      (op.level = .term ∧ op.operandLevel = .factor) := by
  cases op <;> decide

theorem Operator.operandLevel_eq_of_level_eq {op op' : Operator} (same : op.level = op'.level) :
    op.operandLevel = op'.operandLevel := by
  revert same
  cases op <;> cases op' <;> decide

namespace Derives

/-- By induction on the derivation: what stands at a level completes a reading with whatever
completes it behind a factor. -/
theorem completes_append {level : Level} {t : Text} (derives : Derives level t) {depth : Nat}
    {rest : Text} (behind : Completes .behind depth rest) :
    Completes .factor depth (t ++ rest) := by
  induction derives generalizing depth rest with
  | term _ ih => exact ih behind
  | factor _ ih => exact ih behind
  | binary op _ _ ihl ihr =>
    rw [List.append_assoc]
    exact ihl (.operator op (ihr behind))
  | sign isSign _ ih => exact .sign isSign (ih behind)
  | group _ ih =>
    rw [List.cons_append, List.cons_append, List.append_assoc]
    exact .opening (ih (.closing behind))
  | number plain => exact .number plain behind

/-- Two factors with an operator between them stand at its level. -/
theorem binary_of_factors {f e : Text} (left : Derives .factor f) (op : Operator)
    (right : Derives .factor e) : Derives op.level (f ++ op.symbol :: e) := by
  apply binary
  · cases op <;> exact left.weaken (by decide)
  · cases op <;> exact right.weaken (by decide)

private theorem cons_assoc (f s t : Text) (op op' : Operator) :
    f ++ op.symbol :: (s ++ op'.symbol :: t) = (f ++ op.symbol :: s) ++ op'.symbol :: t := by
  simp

/-- A factor in front of a product. Products are folded from the left, so the factor joins the
innermost operator. -/
theorem term_cons {f : Text} (left : Derives .factor f) {op : Operator} (product : op.level = .term)
    {level : Level} {e : Text} (derives : Derives level e) (tight : level ≠ .expression) :
    Derives .term (f ++ op.symbol :: e) := by
  induction derives with
  | term => exact absurd rfl tight
  | factor _ ih => exact ih (by decide)
  | binary op' _ right ih =>
    rcases op'.level_eq with ⟨outer, _⟩ | ⟨outer, _⟩
    · exact absurd outer tight
    · rw [cons_assoc, ← outer]
      exact binary op' (outer ▸ ih tight) right
  | sign isSign operand => exact product ▸ binary_of_factors left op (.sign isSign operand)
  | group expression => exact product ▸ binary_of_factors left op (.group expression)
  | number plain => exact product ▸ binary_of_factors left op (.number plain)

/-- A factor in front of an expression joins its first product or its first sum. -/
theorem expression_cons {f : Text} (left : Derives .factor f) (op : Operator) {level : Level}
    {e : Text} (derives : Derives level e) : Derives .expression (f ++ op.symbol :: e) := by
  have factors {e : Text} (right : Derives .factor e) : Derives .expression (f ++ op.symbol :: e) :=
    (binary_of_factors left op right).weaken (Nat.zero_le _)
  induction derives with
  | term _ ih => exact ih
  | factor _ ih => exact ih
  | binary op' inner right ih =>
    rcases op'.level_eq with ⟨outer, _⟩ | ⟨outer, _⟩
    · rw [cons_assoc, ← outer]
      exact binary op' (outer ▸ ih) right
    · have whole := outer ▸ binary op' inner right
      rcases op.level_eq with ⟨adds, operand⟩ | ⟨multiplies, _⟩
      · rw [← adds]
        exact binary op (adds ▸ .term (.factor left)) (operand ▸ whole)
      · exact .term (term_cons left multiplies whole (by decide))
  | sign isSign operand => exact factors (.sign isSign operand)
  | group expression => exact factors (.group expression)
  | number plain => exact factors (.number plain)

end Derives

/-- What stands behind an expression in `depth` groups: the end, or a parenthesis that closes the
innermost group. -/
def Closes (depth : Nat) (t : Text) : Prop :=
  (depth = 0 ∧ t = []) ∨
    ∃ outer rest, depth = outer + 1 ∧ t = ')' :: rest ∧ Completes .behind outer rest

namespace Completes

/-- Both by induction on the length: behind a parenthesis a factor needs the expression in it, and
an expression the factor it begins with. -/
theorem exists_factor_and_expression {depth : Nat} {t : Text}
    (completes : Completes .factor depth t) :
    (∃ f rest, t = f ++ rest ∧ Derives .factor f ∧ Completes .behind depth rest) ∧
      ∃ e rest, t = e ++ rest ∧ Derives .expression e ∧ Closes depth rest := by
  induction length : t.length using Nat.strongRecOn generalizing depth t with
  | ind n ih =>
    subst length
    have first : ∃ f rest, t = f ++ rest ∧ Derives .factor f ∧ Completes .behind depth rest := by
      rcases completes.head_factor with ⟨a, t, rfl, isSign, rest⟩ | ⟨t, rfl, rest⟩ |
        ⟨literal, t, rfl, plain, rest⟩
      · obtain ⟨⟨f, behind, rfl, factor, after⟩, _⟩ := ih t.length (by simp) rest rfl
        exact ⟨a :: f, behind, rfl, .sign isSign factor, after⟩
      · obtain ⟨_, e, _, rfl, expression, closes⟩ := ih t.length (by simp) rest rfl
        rcases closes with ⟨none, _⟩ | ⟨outer, behind, same, rfl, after⟩
        · cases none
        · cases same
          exact ⟨'(' :: e ++ [')'], behind, by simp, .group expression, after⟩
      · exact ⟨literal, t, rfl, .number plain, rest⟩
    refine ⟨first, ?_⟩
    obtain ⟨f, behind, rfl, factor, after⟩ := first
    cases after with
    | finish => exact ⟨f, [], rfl, factor.weaken (by decide), .inl ⟨rfl, rfl⟩⟩
    | closing rest => exact ⟨f, _, rfl, factor.weaken (by decide), .inr ⟨_, _, rfl, rfl, rest⟩⟩
    | @operator op _ t rest =>
      obtain ⟨_, e, behind, rfl, expression, closes⟩ := ih t.length (by simp; omega) rest rfl
      exact ⟨f ++ op.symbol :: e, behind, by simp, factor.expression_cons op expression, closes⟩

end Completes

/-- What completes a reading from its start is an expression. -/
theorem completes_iff_derives (t : Text) : Completes .factor 0 t ↔ Derives .expression t := by
  constructor
  · intro completes
    obtain ⟨_, e, rest, rfl, expression, closes⟩ := completes.exists_factor_and_expression
    rcases closes with ⟨_, rfl⟩ | ⟨_, _, opened, _⟩
    · rwa [List.append_nil]
    · cases opened
  · intro derives
    have completes := derives.completes_append .finish
    rwa [List.append_nil] at completes

/-! ## The grammar with repetitions -/

/-- Operands with the symbols of their operators between them. -/
def Chain.text (c : Chain Text) : Text :=
  c.first ++ c.others.flatMap fun p => p.1.symbol :: p.2

/-- An expression is a term with any number of `+` or `-` and a term behind it, a term is a factor
with any number of `*` or `/` and a factor behind it. -/
theorem derives_iff_chain (op : Operator) {t : Text} :
    Derives op.level t ↔
      ∃ c : Chain Text, t = c.text ∧ Derives op.operandLevel c.first ∧
        ∀ p ∈ c.others, p.1.level = op.level ∧ Derives op.operandLevel p.2 := by
  constructor
  · intro derives
    obtain ⟨level, same⟩ : ∃ level, level = op.level := ⟨_, rfl⟩
    rw [← same] at derives
    have single {t : Text} (operand : Derives op.operandLevel t) :
        ∃ c : Chain Text, t = c.text ∧ Derives op.operandLevel c.first ∧
          ∀ p ∈ c.others, p.1.level = op.level ∧ Derives op.operandLevel p.2 :=
      ⟨⟨t, []⟩, by simp [Chain.text], operand, by simp⟩
    induction derives with
    | term operand =>
      rcases op.level_eq with ⟨_, inner⟩ | ⟨outer, _⟩
      · exact single (inner ▸ operand)
      · exact absurd (same.trans outer) (by decide)
    | factor operand =>
      rcases op.level_eq with ⟨outer, _⟩ | ⟨_, inner⟩
      · exact absurd (same.trans outer) (by decide)
      · exact single (inner ▸ operand)
    | @binary op' _ t _ right ih =>
      obtain ⟨c, rfl, head, tail⟩ := ih same
      rw [Operator.operandLevel_eq_of_level_eq same] at right
      refine ⟨⟨c.first, c.others ++ [(op', t)]⟩, by simp [Chain.text], head, ?_⟩
      intro p member
      rcases List.mem_append.1 member with before | last
      · exact tail p before
      · rw [List.mem_singleton] at last
        exact last ▸ ⟨same, right⟩
    | sign | group | number =>
      rcases op.level_eq with ⟨level, _⟩ | ⟨level, _⟩ <;> simp [level] at same
  · rintro ⟨⟨first, others⟩, rfl, head, tail⟩
    induction others using List.reverseRecOn with
    | nil =>
      rw [Chain.text, List.flatMap_nil, List.append_nil]
      exact head.weaken (by cases op <;> decide)
    | append_singleton others p ih =>
      have before := ih head fun q member => tail q (List.mem_append_left _ member)
      obtain ⟨level, operand⟩ := tail p (by simp)
      have joined : Derives p.1.level (Chain.text ⟨first, others⟩ ++ p.1.symbol :: p.2) :=
        .binary p.1 (level ▸ before) (Operator.operandLevel_eq_of_level_eq level ▸ operand)
      rw [level] at joined
      simpa [Chain.text] using joined

/-- The alphabet of the grammar. -/
theorem Derives.isDigit_or_mem {level : Level} {t : Text} (derives : Derives level t) :
    ∀ c ∈ t, c.isDigit = true ∨ c ∈ ".+-*/()".toList := by
  have symbol (op : Operator) : op.symbol ∈ ".+-*/()".toList := by cases op <;> decide
  induction derives with
  | term _ ih => exact ih
  | factor _ ih => exact ih
  | binary op _ _ ihl ihr =>
    intro c member
    rcases List.mem_append.1 member with left | right
    · exact ihl c left
    · rcases List.mem_cons.1 right with rfl | right
      · exact .inr (symbol op)
      · exact ihr c right
  | sign isSign _ ih =>
    intro c member
    rcases List.mem_cons.1 member with rfl | inside
    · rcases isSign with rfl | rfl <;> exact .inr (by decide)
    · exact ih c inside
  | group _ ih =>
    intro c member
    simp only [List.cons_append, List.mem_cons, List.mem_append, List.not_mem_nil,
      or_false] at member
    rcases member with rfl | inside | rfl
    · exact .inr (by decide)
    · exact ih c inside
    · exact .inr (by decide)
  | number plain =>
    intro c member
    rcases plain.numeric c member with digit | rfl
    · exact .inl digit
    · exact .inr (by decide)

/-- The texts with a value are the expressions, separators apart; they have no characters but
digits, points, operators and parentheses. -/
theorem evaluate_ok_iff_derives (t : Text) :
    ((∃ x : Float, evaluate t = .ok x) ↔ Derives .expression (Text.strip t)) ∧
      ((∃ x : Float, evaluate t = .ok x) →
        ∀ c ∈ Text.strip t, c.isDigit = true ∨ c ∈ ".+-*/()".toList) := by
  have accepted : (∃ x : Float, evaluate t = .ok x) ↔ Derives .expression (Text.strip t) :=
    (exists_ok_iff_completes Float t).trans (completes_iff_derives _)
  exact ⟨accepted, fun value => (accepted.1 value).isDigit_or_mem⟩

theorem evaluate_ok_iff_derives_signed_group :
    (∃ x : Float, evaluate "2 * -(1 + .5)\t".toList = .ok x) ∧
      Derives .expression "2*-(1+.5)".toList ∧
        ∀ c ∈ "2*-(1+.5)".toList, c.isDigit = true ∨ c ∈ ".+-*/()".toList := by
  have value : ∃ x : Float, evaluate "2 * -(1 + .5)\t".toList = .ok x := ⟨-3, by decide +kernel⟩
  exact ⟨value, (evaluate_ok_iff_derives _).1.1 value, (evaluate_ok_iff_derives _).2 value⟩

end Calculator
