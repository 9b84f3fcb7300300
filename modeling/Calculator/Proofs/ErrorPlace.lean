import Calculator.Proofs.Completion

/-!
Where a run fails, all that is before the place has been consumed without a loss: some completion is
left, and none of them begins with the character at the place. A literal that is no number blocks as
a whole, before the end of the text and before anything but a further digit or point.
-/

namespace Calculator

open Cursor

/-- The text has a value. -/
def Accepted (t : Text) : Prop := ∃ x : Float, evaluate t = .ok x

/-- The error stands at the earliest place of the text, which has no separators. -/
structure ParseError.Earliest (s : Text) (e : ParseError) : Prop where
  position_le : e.position ≤ s.length
  char_eq : e.char = s[e.position]?
  char_eq_none_iff : e.char = none ↔ e.position = s.length
  /-- What is before the place can be completed. -/
  completable : ∃ u, Accepted (s.take e.position ++ u)
  /-- The character at the place cannot go on with it. -/
  blocked : e.kind = .unexpectedCharacter ∨ e.kind = .mismatchedParentheses →
    e.position < s.length → ∀ u, Accepted u → ¬ s.take (e.position + 1) <+: Text.strip u
  /-- The literal at the place cannot go on with it, unless a digit or a point is added to it. -/
  literal_blocked : ∀ {literal position}, e = .invalidNumberLiteral literal position →
    (s.drop position).take literal.length = literal ∧ ∀ u, Accepted u →
      Text.strip u ≠ s.take (position + literal.length) ∧
        ∀ a v, isNumeric a = false → Text.strip u ≠ s.take (position + literal.length) ++ a :: v

namespace Reading

variable {α : Type} {s : Reading α} {e : ParseError}

/-- An error has the place of the cursor. -/
theorem FailsWith.position_eq (fails : s.FailsWith e) : e.position = s.cursor.pos := by
  cases fails <;> rfl

theorem FailsWith.char_eq (fails : s.FailsWith e) : e.char = s.cursor.char := by
  cases fails with
  | @noLiteral stack group c here =>
    have nonempty := run_ne_nil here
    change (c.run isNumeric).head? = c.rest.head?
    rw [← c.run_append_rest_skip isNumeric, List.head?_append_of_ne_nil _ nonempty]
  | noFactor => rfl
  | unclosed => rfl
  | leftOver => rfl

/-- The literal of an error is what the text goes on with. -/
theorem FailsWith.exists_rest_eq {literal : Text} {position : Nat}
    (fails : s.FailsWith (.invalidNumberLiteral literal position)) :
    ∃ behind, s.cursor.rest = literal ++ behind := by
  cases fails with
  | @noLiteral stack group c => exact ⟨_, (c.run_append_rest_skip isNumeric).symm⟩

theorem FailsWith.head?_literal_append {literal : Text} {position : Nat}
    (fails : s.FailsWith (.invalidNumberLiteral literal position)) (v : Text) :
    (literal ++ v).head? = s.cursor.char := by
  have nonempty : literal ≠ [] := by
    cases fails with
    | noLiteral here => exact run_ne_nil here
  rw [List.head?_append_of_ne_nil _ nonempty]
  exact fails.char_eq

variable [Arithmetic α] {t u : Text}

theorem Consumes.strip_eq (consumes : Consumes (start t) u s) :
    Text.strip t = u ++ s.cursor.rest := consumes.rest_eq

theorem Consumes.pos_eq (consumes : Consumes (start t) u s) : s.cursor.pos = u.length := by
  rw [consumes.forward]
  exact Nat.zero_add _

/-- What is left of the text is what stands behind the place. -/
theorem Consumes.drop_eq (consumes : Consumes (start t) u s) :
    (Text.strip t).drop s.cursor.pos = s.cursor.rest := by
  rw [consumes.strip_eq, consumes.pos_eq, List.drop_left]

/-- What has been consumed, with a part of what comes next. -/
theorem Consumes.take_add_eq (consumes : Consumes (start t) u s) {v behind : Text}
    (next : s.cursor.rest = v ++ behind) :
    (Text.strip t).take (s.cursor.pos + v.length) = u ++ v := by
  rw [consumes.strip_eq, consumes.pos_eq, next, ← List.length_append, ← List.append_assoc,
    List.take_left]

/-- What has been consumed is the start of an expression. -/
theorem Consumes.exists_completes_append (consumes : Consumes (start t) u s) :
    ∃ v, Completes .factor 0 (Text.strip (u ++ v)) := by
  obtain ⟨v, completes, unseparated⟩ := Completes.exists_completes s.stage s.depth
  have consumed : Text.strip u = u := by
    apply Text.strip_eq_self
    intro a member
    have inside : a ∈ Text.strip t := by
      rw [consumes.strip_eq]
      exact List.mem_append_left _ member
    exact (Text.mem_strip.1 inside).2
  refine ⟨v, ?_⟩
  rw [Text.strip_append, consumed, unseparated]
  exact consumes.completedBy completes

/-- No expression goes on with the character that is refused. -/
theorem FailsWith.not_completes_append (fails : s.FailsWith e)
    (consumes : Consumes (start t) u s) (kind : e.kind ≠ .invalidNumberLiteral) {v : Text}
    (head : v.head? = s.cursor.char) : ¬ Completes .factor 0 (u ++ v) := by
  intro completes
  exact fails.not_completedBy kind head (consumes.of_completedBy head completes)

/-- No expression goes on with the literal that is refused, unless the literal goes on as well. -/
theorem FailsWith.not_completes_literal_append {literal : Text} {position : Nat}
    (fails : s.FailsWith (.invalidNumberLiteral literal position))
    (consumes : Consumes (start t) u s) {v : Text}
    (stop : ∀ a, v.head? = some a → isNumeric a = false) :
    ¬ Completes .factor 0 (u ++ literal ++ v) := by
  intro completes
  rw [List.append_assoc] at completes
  exact fails.not_completedBy_literal stop
    (consumes.of_completedBy (fails.head?_literal_append v) completes)

end Reading

theorem accepted_iff_completes (t : Text) : Accepted t ↔ Completes .factor 0 (Text.strip t) :=
  exists_ok_iff_completes Float t

/-- An error is that of a reading which has consumed what is before it. -/
theorem exists_failure {t : Text} {e : ParseError}
    (raised : (evaluate t : Except ParseError Float) = .error e) :
    ∃ u, ∃ s : Reading Float, Reading.Consumes (.start t) u s ∧ s.FailsWith e := by
  obtain ⟨u, s, consumes, ⟨⟨x, value⟩, _⟩ | ⟨e', raised', fails⟩⟩ :=
    Reading.exists_outcome (α := Float) t
  · cases raised.symm.trans value
  · cases raised.symm.trans raised'
    exact ⟨u, s, consumes, fails⟩

/-- An error stands at the earliest place there is for it. -/
theorem earliest_of_error {t : Text} {e : ParseError}
    (raised : (evaluate t : Except ParseError Float) = .error e) : e.Earliest (Text.strip t) := by
  obtain ⟨u, s, consumes, fails⟩ := exists_failure raised
  have position : e.position = s.cursor.pos := fails.position_eq
  have char : e.char = (Text.strip t)[e.position]? := by
    rw [fails.char_eq, Cursor.char, position, ← consumes.drop_eq, List.head?_drop]
  have inside : e.position ≤ (Text.strip t).length := by
    rw [position, consumes.pos_eq, consumes.strip_eq, List.length_append]
    omega
  constructor
  case position_le => exact inside
  case char_eq => exact char
  case char_eq_none_iff =>
    rw [char, List.getElem?_eq_none_iff]
    omega
  case completable =>
    have before : (Text.strip t).take e.position = u := by
      simpa [position] using consumes.take_add_eq (List.nil_append _).symm
    obtain ⟨v, completes⟩ := consumes.exists_completes_append
    exact ⟨v, by rw [before]; exact (accepted_iff_completes _).2 completes⟩
  case blocked =>
    -- a text that goes on with the character would complete the reading that fails there
    rintro kind more w accepted ⟨v, whole⟩
    have completes := (accepted_iff_completes w).1 accepted
    have noLiteral : e.kind ≠ .invalidNumberLiteral := by
      rcases kind with kind | kind <;> rw [kind] <;> decide
    obtain ⟨a, here⟩ : ∃ a, s.cursor.char = some a := by
      rw [← fails.char_eq, char]
      exact ⟨_, List.getElem?_eq_getElem more⟩
    have through : (Text.strip t).take (e.position + 1) = u ++ [a] :=
      position ▸ consumes.take_add_eq (v := [a]) (rest_eq_cons_iff.1 here)
    rw [← whole, through, List.append_assoc] at completes
    exact fails.not_completes_append consumes noLiteral (v := [a] ++ v) here.symm completes
  case literal_blocked =>
    rintro literal place rfl
    obtain ⟨behind, next⟩ := fails.exists_rest_eq
    have place_eq : place = s.cursor.pos := position
    refine ⟨?_, ?_⟩
    · rw [place_eq, consumes.drop_eq, next, List.take_left]
    · intro w accepted
      have completes := (accepted_iff_completes w).1 accepted
      rw [place_eq, consumes.take_add_eq next]
      constructor
      · intro same
        rw [same, ← List.append_nil (u ++ literal)] at completes
        exact fails.not_completes_literal_append consumes (by simp) completes
      · intro a v other same
        rw [same] at completes
        exact fails.not_completes_literal_append consumes (by simpa using other) completes

/-- An operator is missing behind a number, and a run with two points is no number. -/
theorem earliest_of_error_behind_group :
    ((evaluate "(1 + 2) 3".toList : Except ParseError Float) =
        .error (.unexpectedCharacter 5 (some '3')) ∧
      ParseError.Earliest "(1+2)3".toList (.unexpectedCharacter 5 (some '3'))) ∧
    ((evaluate "-(2 * 1.2.3".toList : Except ParseError Float) =
        .error (.invalidNumberLiteral "1.2.3".toList 4) ∧
      ParseError.Earliest "-(2*1.2.3".toList (.invalidNumberLiteral "1.2.3".toList 4)) := by
  have leftOver : (evaluate "(1 + 2) 3".toList : Except ParseError Float) =
      .error (.unexpectedCharacter 5 (some '3')) := by decide +kernel
  have noNumber : (evaluate "-(2 * 1.2.3".toList : Except ParseError Float) =
      .error (.invalidNumberLiteral "1.2.3".toList 4) := by decide +kernel
  exact ⟨⟨leftOver, earliest_of_error leftOver⟩, ⟨noNumber, earliest_of_error noNumber⟩⟩

end Calculator
