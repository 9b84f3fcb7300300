import Calculator.Proofs.Continuation

/-!
What is in parentheses counts for what is around it by nothing but its value. A text before a
character that belongs to no number is read without a look at what follows, and the levels around a
group wait until it is closed.
-/

namespace Calculator

open Cursor

namespace Continuation

variable {α : Type} [Arithmetic α] {k next : Continuation α} {u v t : Text} {e : ParseError}

/-- Before any character that belongs to no number, the text is read to its end, or the reading
fails inside. -/
def ReadsUpTo (k : Continuation α) (u : Text) : Prop :=
  (∃ e : ParseError, e.position < u.length ∧
      ∀ c w, isNumeric c = false → k.read (u ++ c :: w) = .error e) ∨
    ∃ next : Continuation α,
      ∀ c w, isNumeric c = false → k.read (u ++ c :: w) = moved u.length (next.read (c :: w))

theorem ReadsUpTo.append
    (first : ∀ c w, isNumeric c = false →
      k.read (u ++ (v ++ c :: w)) = moved u.length (next.read (v ++ c :: w)))
    (second : ReadsUpTo next v) : ReadsUpTo k (u ++ v) := by
  rcases second with ⟨e, inside, fails⟩ | ⟨last, reads⟩
  · refine .inl ⟨e.forward u.length, by simpa using inside, fun c w other => ?_⟩
    rw [List.append_assoc, first c w other, fails c w other, moved_error]
  · refine .inr ⟨last, fun c w other => ?_⟩
    rw [List.append_assoc, first c w other, reads c w other, moved_moved, List.length_append]

theorem Apart.append {c : Char} (other : isNumeric c = false) (apart : Apart u t) (w : Text) :
    Apart u (t ++ c :: w) := by
  intro numeric a first
  cases t with
  | nil =>
    cases first
    exact other
  | cons b t => exact apart numeric a first

theorem Fails.position_eq (fails : Fails k t e) : e.position = 0 := by
  cases fails <;> rfl

/-- What fails does not fail for want of what follows. -/
theorem Fails.append {c : Char} (other : isNumeric c = false) (nonempty : t ≠ [])
    (fails : Fails k t e) (w : Text) : Fails k (t ++ c :: w) e := by
  have head : (t ++ c :: w).head? = t.head? := List.head?_append_of_ne_nil _ nonempty
  cases fails with
  | noLiteral filled numeric apart valueless =>
    rw [List.append_assoc]
    exact .noLiteral filled numeric (apart.append other w) valueless
  | noFactor noSign noGroup noNumber =>
    rw [← head] at *
    exact .noFactor noSign noGroup noNumber
  | unclosed noOperator noClosing =>
    rw [← head] at *
    exact .unclosed noOperator noClosing
  | leftOver noOperator =>
    rw [← head] at *
    exact .leftOver noOperator (by simp)

/-- Every text is read so, with whatever is held. -/
theorem readsUpTo (k : Continuation α) (u : Text) : ReadsUpTo k u := by
  have nothing (k : Continuation α) : ReadsUpTo k [] := .inr ⟨k, fun c w _ => (moved_zero _).symm⟩
  induction k, u using read_induction with
  | takes taken apart ih =>
    exact .append (fun c w other => taken.read (apart.append other w)) ih
  | value group => exact nothing _
  | @fails k t e failure =>
    by_cases empty : t = []
    · rw [empty]
      exact nothing k
    · refine .inl ⟨e, ?_, fun c w other => (failure.append other empty w).read⟩
      rw [failure.position_eq]
      exact List.length_pos_iff.2 empty

/-- With more levels around. -/
def above (outer : List (α → Group α)) : Continuation α → Continuation α
  | factor levels take => factor (levels ++ outer) take
  | behind levels group => behind (levels ++ outer) group

/-- What is consumed does not look at the levels further out. -/
theorem Takes.above (outer : List (α → Group α)) (taken : Takes k u next) :
    Takes (k.above outer) u (next.above outer) := by
  cases taken with
  | plus => exact .plus
  | minus => exact .minus
  | opening => exact .opening
  | number nonempty numeric found => exact .number nonempty numeric found
  | operator op => exact .operator op
  | closing => exact .closing

/-- What is an expression to its end is read to its end in parentheses too, and its value goes to
the level around. -/
theorem read_above {x : α} (value : k.read t = .ok x) (take : α → Group α)
    (levels : List (α → Group α)) (v : Text) :
    (k.above (take :: levels)).read (t ++ ')' :: v) =
      moved (t.length + 1) ((behind levels (take x)).read v) := by
  induction k, t using read_induction with
  | takes taken apart ih =>
    rw [taken.read apart, moved_eq_ok_iff] at value
    rw [List.append_assoc, (taken.above _).read (apart.append (by decide) v), ih value, moved_moved,
      List.length_append, Nat.add_assoc]
  | value group =>
    rw [read] at value
    cases value
    exact Takes.closing.read_cons (by decide)
  | fails failure =>
    rw [failure.read] at value
    cases value

/-- The level around a group sees the value and the length of what is in parentheses. -/
theorem read_group {x : α} (value : (start : Continuation α).read t = .ok x)
    (levels : List (α → Group α)) (take : α → Group α) (v : Text) :
    (factor levels take).read ('(' :: t ++ ')' :: v) =
      moved (t.length + 2) ((behind levels (take x)).read v) := by
  rw [List.cons_append, Takes.opening.read_cons (by decide)]
  change moved 1 ((start.above (take :: levels)).read (t ++ ')' :: v)) = _
  rw [read_above value, moved_moved]
  congr 1
  omega

/-- Behind a factor a parenthesis is refused whatever is in it. -/
theorem read_behind_opening (levels : List (α → Group α)) (group : Group α) :
    ∃ e : ParseError, e.position = 0 ∧ ∀ w, (behind levels group).read ('(' :: w) = .error e := by
  have noOperator (op : Operator) : some '(' ≠ some op.symbol := by cases op <;> decide
  cases levels with
  | nil =>
    refine ⟨.unexpectedCharacter 0 '(', rfl, fun w => ?_⟩
    exact (Fails.leftOver (t := '(' :: w) noOperator (by simp)).read
  | cons take levels =>
    refine ⟨.mismatchedParentheses 0 '(', rfl, fun w => ?_⟩
    exact (Fails.unclosed (t := '(' :: w) noOperator (by simp)).read

end Continuation

/-! ## Outcomes that differ in places only -/

namespace ParseError

/-- The literal that an error shows. -/
def literal? : ParseError → Option Text
  | invalidNumberLiteral literal _ => some literal
  | _ => none

@[simp] theorem literal?_forward (count : Nat) (e : ParseError) :
    (e.forward count).literal? = e.literal? := by
  cases e <;> rfl

/-- The errors of two texts that differ in a part of length `m` and `n`: they are the same but for
the place, and the place too is the same before a bound. -/
structure SameBut (bound m n : Nat) (e e' : ParseError) : Prop where
  kind : e.kind = e'.kind
  char : e.char = e'.char
  literal : e.literal? = e'.literal?
  place : e.position < bound ∧ e'.position = e.position ∨
    bound ≤ e.position ∧ bound ≤ e'.position ∧ (e'.position : Int) - e.position = n - m

theorem SameBut.of_lt {bound m n : Nat} {e : ParseError} (before : e.position < bound) :
    SameBut bound m n e e :=
  ⟨rfl, rfl, rfl, .inl ⟨before, rfl⟩⟩

theorem SameBut.of_forward {bound m n count : Nat} (e : ParseError) (beyond : bound ≤ count) :
    SameBut bound m n (e.forward (count + m)) (e.forward (count + n)) := by
  refine ⟨by simp, by simp, by simp, .inr ⟨?_, ?_, ?_⟩⟩
  all_goals simp only [position_forward]
  all_goals omega

end ParseError

/-- The outcomes of two texts that differ in a part of length `m` and `n`. -/
def SameOutcome {α : Type} (bound m n : Nat) : (o o' : Except ParseError α) → Prop
  | .ok x, .ok x' => x = x'
  | .error e, .error e' => e.SameBut bound m n e'
  | _, _ => False

/-- Outcomes behind the part that differs are the same but for the places. -/
theorem sameOutcome_moved {α : Type} {bound m n count : Nat} (o : Except ParseError α)
    (beyond : bound ≤ count) :
    SameOutcome bound m n (moved (count + m) o) (moved (count + n) o) := by
  cases o with
  | ok x => exact rfl
  | error e => exact .of_forward e beyond

namespace Text

/-- There are no separators in the text. -/
def Unseparated (t : Text) : Prop := ∀ a ∈ t, isSeparator a = false

instance (t : Text) : Decidable (Unseparated t) :=
  decidable_of_iff (t.all fun a => !isSeparator a) (by simp [Unseparated])

theorem Unseparated.append {s t : Text} (first : Unseparated s) (second : Unseparated t) :
    Unseparated (s ++ t) :=
  fun a member => (List.mem_append.1 member).elim (first a) (second a)

theorem Unseparated.cons {a : Char} {t : Text} (first : isSeparator a = false)
    (second : Unseparated t) : Unseparated (a :: t) :=
  fun b member => (List.mem_cons.1 member).elim (fun same => same ▸ first) (second b)

end Text

/-- In any text, well formed or not, an expression in parentheses may stand for another one with the
same value. -/
theorem evaluate_group {u v e₁ e₂ : Text} (before : Text.Unseparated u)
    (behind : Text.Unseparated v) (inside₁ : Text.Unseparated e₁) (inside₂ : Text.Unseparated e₂)
    {x : Float} (value₁ : evaluate e₁ = .ok x) (value₂ : evaluate e₂ = .ok x) :
    SameOutcome (u.length + 1) e₁.length e₂.length
      (evaluate (u ++ '(' :: e₁ ++ ')' :: v) : Except ParseError Float)
      (evaluate (u ++ '(' :: e₂ ++ ')' :: v)) := by
  have whole {e : Text} (inside : Text.Unseparated e) :
      evaluate (u ++ '(' :: e ++ ')' :: v) =
        (Continuation.start : Continuation Float).read (u ++ '(' :: (e ++ ')' :: v)) := by
    rw [evaluate_eq_read negate_negate, List.append_assoc, List.cons_append, Text.strip_eq_self]
    exact before.append (.cons (by decide) (inside.append (.cons (by decide) behind)))
  have value {e : Text} (inside : Text.Unseparated e) (value : evaluate e = .ok x) :
      (Continuation.start : Continuation Float).read e = .ok x := by
    rwa [evaluate_eq_read negate_negate, Text.strip_eq_self inside] at value
  rw [whole inside₁, whole inside₂]
  -- Both texts are read alike up to the group, which the rest of the reading sees as a value.
  rcases Continuation.readsUpTo (Continuation.start : Continuation Float) u with
    ⟨e, place, fails⟩ | ⟨next, reads⟩
  · rw [fails _ _ (by decide), fails _ _ (by decide)]
    exact ParseError.SameBut.of_lt (Nat.lt_succ_of_lt place)
  · rw [reads _ _ (by decide), reads _ _ (by decide)]
    cases next with
    | factor levels take =>
      have group {e : Text} (value : (Continuation.start : Continuation Float).read e = .ok x) :
          moved u.length ((Continuation.factor levels take).read ('(' :: (e ++ ')' :: v))) =
            moved (u.length + 2 + e.length) ((Continuation.behind levels (take x)).read v) := by
        rw [← List.cons_append, Continuation.read_group value, moved_moved]
        congr 1
        omega
      rw [group (value inside₁ value₁), group (value inside₂ value₂)]
      exact sameOutcome_moved _ (by omega)
    | behind levels group =>
      obtain ⟨e, place, fails⟩ := Continuation.read_behind_opening levels group
      rw [fails, fails]
      exact ParseError.SameBut.of_lt (by simp [place])

/-- An error behind the group, and one before it. -/
theorem evaluate_group_of_six :
    ((evaluate "2*3".toList : Except ParseError Float) = .ok 6 ∧
      (evaluate "7-2/2".toList : Except ParseError Float) = .ok 6) ∧
    SameOutcome 5 3 5
      (evaluate ("2*(-".toList ++ '(' :: "2*3".toList ++ ')' :: "+1..)".toList) :
        Except ParseError Float)
      (evaluate ("2*(-".toList ++ '(' :: "7-2/2".toList ++ ')' :: "+1..)".toList)) ∧
    SameOutcome 3 3 5
      (evaluate ("2)".toList ++ '(' :: "2*3".toList ++ ')' :: "*".toList) :
        Except ParseError Float)
      (evaluate ("2)".toList ++ '(' :: "7-2/2".toList ++ ')' :: "*".toList)) := by
  have product : (evaluate "2*3".toList : Except ParseError Float) = .ok 6 := by decide +kernel
  have difference : (evaluate "7-2/2".toList : Except ParseError Float) = .ok 6 := by
    decide +kernel
  refine ⟨⟨product, difference⟩, ?_, ?_⟩
  · exact evaluate_group (by decide) (by decide) (by decide) (by decide) product difference
  · exact evaluate_group (by decide) (by decide) (by decide) (by decide) product difference

end Calculator
