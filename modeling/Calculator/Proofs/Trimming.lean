import Calculator.Text.Letters
import Mathlib.Data.List.DropRight

namespace Calculator.Text

variable {p : Char → Bool} {s t : Text}

theorem trim_eq_rdropWhile (p : Char → Bool) (t : Text) :
    trim p t = (t.dropWhile p).rdropWhile p := rfl

/-- More of what is trimmed changes nothing in front. -/
theorem trim_append_left (all : ∀ a ∈ s, p a = true) (t : Text) : trim p (s ++ t) = trim p t := by
  rw [trim, List.dropWhile_append_of_pos all, trim]

theorem rdropWhile_append_right (all : ∀ a ∈ s, p a = true) (t : Text) :
    (t ++ s).rdropWhile p = t.rdropWhile p := by
  have all' : ∀ a ∈ s.reverse, p a = true := fun a member => all a (List.mem_reverse.1 member)
  rw [List.rdropWhile, List.reverse_append, List.dropWhile_append_of_pos all', List.rdropWhile]

/-- More of what is trimmed changes nothing at the end. -/
theorem trim_append_right (all : ∀ a ∈ s, p a = true) (t : Text) : trim p (t ++ s) = trim p t := by
  rw [trim_eq_rdropWhile, trim_eq_rdropWhile, List.dropWhile_append]
  split
  case isTrue empty =>
    rw [List.isEmpty_iff.1 empty, List.dropWhile_eq_nil_iff.2 all]
  case isFalse => exact rdropWhile_append_right all _

theorem rdropWhile_eq_self (last : ∀ a, t.getLast? = some a → p a = false) :
    t.rdropWhile p = t := by
  rw [List.rdropWhile_eq_self_iff]
  intro nonempty
  rw [last _ (List.getLast?_eq_some_getLast nonempty)]
  exact Bool.false_ne_true

theorem trim_eq_self (others : ∀ a ∈ t, p a = false) : trim p t = t := by
  have front : t.dropWhile p = t := by
    cases t with
    | nil => rfl
    | cons a s => rw [List.dropWhile_cons_of_neg (by simp [others a List.mem_cons_self])]
  rw [trim_eq_rdropWhile, front]
  exact rdropWhile_eq_self fun a last => others a (List.mem_of_getLast? last)

/-- The text with what has been trimmed off it. -/
theorem exists_eq_trim (p : Char → Bool) (t : Text) :
    ∃ front back, t = front ++ trim p t ++ back ∧ (∀ a ∈ front, p a = true) ∧
      ∀ a ∈ back, p a = true := by
  refine ⟨t.takeWhile p, (t.dropWhile p).rtakeWhile p, ?_, fun a => List.mem_takeWhile_imp,
    fun a => List.mem_rtakeWhile_imp⟩
  rw [trim_eq_rdropWhile, List.append_assoc, List.rdropWhile_append_rtakeWhile,
    List.takeWhile_append_dropWhile]

/-- What begins with a character of no such class is trimmed at its end only. -/
theorem trim_cons {a : Char} (first : p a = false) (t : Text) :
    trim p (a :: t) = (a :: t).rdropWhile p := by
  rw [trim_eq_rdropWhile, List.dropWhile_cons_of_neg (by simp [first])]

/-- Nothing is dropped before a character that stays. -/
theorem rdropWhile_append_left (content : ∃ a ∈ t, p a = false) (s : Text) :
    (s ++ t).rdropWhile p = s ++ t.rdropWhile p := by
  obtain ⟨a, member, other⟩ := content
  have stays : ¬ (t.reverse.dropWhile p).isEmpty := by
    rw [List.isEmpty_iff, List.dropWhile_eq_nil_iff]
    intro all
    have := all a (List.mem_reverse.2 member)
    rw [other] at this
    cases this
  simp [List.rdropWhile, List.dropWhile_append, stays]

theorem head_trim {a : Char} (trimmed : trim p t = a :: s) : p a = false := by
  have kept : (t.dropWhile p).rdropWhile p <+: t.dropWhile p :=
    List.rdropWhile_prefix p _
  rw [← trim_eq_rdropWhile, trimmed] at kept
  obtain ⟨back, whole⟩ := kept
  have stop := List.head?_dropWhile_not p t
  rw [← whole] at stop
  exact stop

/-- A run with something else behind it is taken whole. -/
theorem takeWhile_run (all : ∀ a ∈ s, p a = true) (stop : ∀ a, t.head? = some a → p a = false) :
    (s ++ t).takeWhile p = s := by
  rw [List.takeWhile_append_of_pos all]
  cases t with
  | nil => simp
  | cons a t => simp [stop a rfl]

/-- What stops a run is left as it is. -/
theorem dropWhile_run (all : ∀ a ∈ s, p a = true) (stop : ∀ a, t.head? = some a → p a = false) :
    (s ++ t).dropWhile p = t := by
  rw [List.dropWhile_append_of_pos all]
  cases t with
  | nil => rfl
  | cons a t => rw [List.dropWhile_cons_of_neg (by simp [stop a rfl])]

theorem toLower_eq_self {a : Char} (other : a.toNat < 65 ∨ 90 < a.toNat) : a.toLower = a := by
  refine dif_neg fun ⟨low, high⟩ => ?_
  have low : 65 ≤ a.toNat := low
  have high : a.toNat ≤ 90 := high
  omega

theorem lowerChar_of_toLower {a b : Char} (same : a.toLower = b) (ascii : b.toNat < 128) :
    lowerChar a = [b] := by
  have notDotted : a ≠ '\u0130' := by
    rintro rfl
    subst same
    revert ascii
    decide
  have notKelvin : a ≠ '\u212A' := by
    rintro rfl
    subst same
    revert ascii
    decide
  rw [lowerChar, if_neg notDotted, if_neg notKelvin, same]

/-- A word that differs from a word of ASCII letters in case only has that word as its lower case.
-/
theorem lower_of_map_toLower {word t : Text} (cased : t.map Char.toLower = word)
    (ascii : ∀ a ∈ word, a.toNat < 128) : lower t = word := by
  induction t generalizing word with
  | nil => exact cased
  | cons a t ih =>
    subst cased
    have first := ascii a.toLower (by simp)
    have rest := ih rfl fun b member => ascii b (.tail _ member)
    change lowerChar a ++ lower t = _
    rw [lowerChar_of_toLower rfl first, rest]
    rfl

end Calculator.Text
