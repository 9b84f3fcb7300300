import Calculator.Proofs.ErrorCause
import Calculator.Proofs.Groups

namespace Calculator

open Cursor

namespace Continuation

variable {α : Type} [Arithmetic α]

/-- Behind the character a factor comes next, or the reading has failed at the character. -/
theorem read_char_before_factor (k : Continuation α) {a : Char}
    (opens : Stage.factor.Behind a) :
    (∃ e : ParseError, e.position = 0 ∧ ∀ w, k.read (a :: w) = .error e) ∨
      ∃ levels take, ∀ w, k.read (a :: w) = moved 1 ((factor levels take).read w) := by
  have goesOn {levels take} (other : isNumeric a = false)
      (takes : Takes k [a] (factor levels take)) :
      ∃ levels take, ∀ w, k.read (a :: w) = moved 1 ((factor levels take).read w) :=
    ⟨levels, take, fun w => takes.read_cons other⟩
  cases k with
  | factor levels take =>
    have noFactor (noSign : a ≠ '+' ∧ a ≠ '-') (noGroup : a ≠ '(') (noNumber : isNumeric a = false) :
        ∃ e : ParseError, e.position = 0 ∧ ∀ w, (factor levels take).read (a :: w) = .error e :=
      ⟨.unexpectedCharacter 0 a, rfl, fun w =>
        (Fails.noFactor (t := a :: w) (by simpa using noSign) (by simpa using noGroup) noNumber).read⟩
    rcases opens with rfl | rfl | rfl | rfl | rfl
    · exact .inr (goesOn (by decide) .plus)
    · exact .inr (goesOn (by decide) .minus)
    · exact .inl (noFactor (by decide) (by decide) (by decide))
    · exact .inl (noFactor (by decide) (by decide) (by decide))
    · exact .inr (goesOn (by decide) .opening)
  | behind levels group =>
    rcases opens with rfl | rfl | rfl | rfl | rfl
    · exact .inr (goesOn (by decide) (.operator .add))
    · exact .inr (goesOn (by decide) (.operator .subtract))
    · exact .inr (goesOn (by decide) (.operator .multiply))
    · exact .inr (goesOn (by decide) (.operator .divide))
    · exact .inl (read_behind_opening levels group)

/-- Behind a text that ends so, a factor comes next, or the reading has failed inside. -/
theorem read_before_factor (levels : List (α → Group α)) (take : α → Group α) {u : Text}
    (opens : ∀ a, u.getLast? = some a → Stage.factor.Behind a) :
    (∃ e : ParseError, e.position < u.length ∧ ∀ w, (factor levels take).read (u ++ w) = .error e) ∨
      ∃ levels' take', ∀ w,
        (factor levels take).read (u ++ w) = moved u.length ((factor levels' take').read w) := by
  rcases List.eq_nil_or_concat' u with rfl | ⟨v, a, rfl⟩
  · exact .inr ⟨levels, take, fun w => (moved_zero _).symm⟩
  have last : Stage.factor.Behind a := opens a List.getLast?_concat
  have other : isNumeric a = false := by
    rcases last with rfl | rfl | rfl | rfl | rfl <;> decide
  have split (w : Text) : v ++ [a] ++ w = v ++ a :: w := by simp
  simp only [split, List.length_append, List.length_singleton]
  rcases readsUpTo (factor levels take) v with ⟨e, inside, fails⟩ | ⟨next, reads⟩
  · exact .inl ⟨e, by omega, fun w => fails a w other⟩
  rcases read_char_before_factor next last with ⟨e, place, fails⟩ | ⟨levels', take', goesOn⟩
  · refine .inl ⟨e.forward v.length, by simp [place], fun w => ?_⟩
    rw [reads a w other, fails, moved_error]
  · refine .inr ⟨levels', take', fun w => ?_⟩
    rw [reads a w other, goesOn, moved_moved]

end Continuation

/-- In any text, well formed or not, a run of signs may stand for another one whose minus signs have
the same parity. -/
theorem evaluate_signs {u v g₁ g₂ : Text} (before : Text.Unseparated u)
    (behind : Text.Unseparated v) (opens : ∀ a, u.getLast? = some a → Stage.factor.Behind a)
    (signs₁ : ∀ a ∈ g₁, a = '+' ∨ a = '-') (signs₂ : ∀ a ∈ g₂, a = '+' ∨ a = '-')
    (parity : g₁.count '-' % 2 = g₂.count '-' % 2) :
    SameOutcome u.length g₁.length g₂.length
      (evaluate (u ++ g₁ ++ v) : Except ParseError Float) (evaluate (u ++ g₂ ++ v)) := by
  have whole {g : Text} (signs : ∀ a ∈ g, a = '+' ∨ a = '-') :
      evaluate (u ++ g ++ v) = (Continuation.start : Continuation Float).read (u ++ (g ++ v)) := by
    have unseparated : Text.Unseparated g := by
      intro a member
      rcases signs a member with rfl | rfl <;> decide
    rw [evaluate_eq_read negate_negate, Text.strip_eq_self ((before.append unseparated).append behind),
      List.append_assoc]
  have same : negates g₁ = negates g₂ := by rw [negates, negates, parity]
  rw [whole signs₁, whole signs₂, Continuation.start]
  -- Where the run begins the reading holds no sign yet, so the run adds its own parity only.
  rcases Continuation.read_before_factor ([] : List (Float → Group Float))
    (Group.opened false).addFactor opens with ⟨e, inside, fails⟩ | ⟨levels, take, reads⟩
  · rw [fails, fails]
    exact ParseError.SameBut.of_lt inside
  · rw [reads, reads, Continuation.read_signs negate_negate signs₁,
      Continuation.read_signs negate_negate signs₂, same, moved_moved, moved_moved]
    exact sameOutcome_moved _ (le_refl _)

/-- Three signs before a group whose end is missing stand for one, and no sign for two. -/
theorem evaluate_signs_before_group :
    (Text.Unseparated "2*".toList ∧ Text.Unseparated "(1+2".toList ∧
        (∀ a, "2*".toList.getLast? = some a → Stage.factor.Behind a) ∧
        "-+-+-".toList.count '-' % 2 = "-".toList.count '-' % 2) ∧
    SameOutcome 2 5 1
      (evaluate ("2*".toList ++ "-+-+-".toList ++ "(1+2".toList) : Except ParseError Float)
      (evaluate ("2*".toList ++ "-".toList ++ "(1+2".toList)) ∧
    SameOutcome 0 2 0
      (evaluate ([] ++ "--".toList ++ "0".toList) : Except ParseError Float)
      (evaluate ([] ++ [] ++ "0".toList)) := by
  have star : ∀ a, "2*".toList.getLast? = some a → Stage.factor.Behind a := by
    rintro a ⟨⟩
    exact Stage.behind_symbol .multiply
  refine ⟨⟨by decide, by decide, star, by decide⟩, ?_, ?_⟩
  · exact evaluate_signs (by decide) (by decide) star (by simp) (by simp) (by decide)
  · exact evaluate_signs (by decide) (by decide) nofun (by simp) (by simp) (by decide)

end Calculator
