import Calculator.Number.Reader

namespace Calculator

namespace Decimal

/-- Digits and at most one point, with at least one digit. -/
structure IsPlain (t : Text) : Prop where
  numeric : ∀ c ∈ t, c.isDigit = true ∨ c = '.'
  digit : ∃ c ∈ t, c.isDigit = true
  points : t.count '.' ≤ 1

/-- A sign or nothing. -/
def IsSign (t : Text) : Prop :=
  t = [] ∨ t = ['+'] ∨ t = ['-']

/-- A plain decimal, or one with a mark, an optional sign and digits behind it. -/
inductive IsScientific : Text → Prop
  | plain {t : Text} (plain : IsPlain t) : IsScientific t
  | scaled {t sign digits : Text} {mark : Char} (plain : IsPlain t)
      (isMark : mark = 'e' ∨ mark = 'E') (isSign : IsSign sign) (nonempty : digits ≠ [])
      (all : ∀ c ∈ digits, c.isDigit = true) : IsScientific (t ++ mark :: sign ++ digits)

end Decimal

namespace Numeral

/-- An optional sign, and one of the two words or a decimal. -/
inductive IsNumeral (words : NumberWords) : Text → Prop
  | notANumber {sign : Text} (isSign : Decimal.IsSign sign) :
      IsNumeral words (sign ++ words.notANumber)
  | infinity {sign : Text} (isSign : Decimal.IsSign sign) :
      IsNumeral words (sign ++ words.infinity)
  | finite {sign t : Text} (isSign : Decimal.IsSign sign) (decimal : Decimal.IsScientific t) :
      IsNumeral words (sign ++ t)

/-- Nothing or one of the letters that may end an argument. -/
def IsEnding (t : Text) : Prop :=
  t = [] ∨ ∃ c, t = [c] ∧ isSuffix c = true

/-- A numeral with an optional suffix letter. -/
def IsArgument (t : Text) : Prop :=
  ∃ numeral ending, t = numeral ++ ending ∧ IsNumeral .long numeral ∧ IsEnding ending

end Numeral

namespace Decimal

theorem count_point_of_digits {t : Text} (digits : ∀ c ∈ t, c.isDigit = true) :
    t.count '.' = 0 :=
  List.count_eq_zero.2 fun member => absurd (digits _ member) (by decide)

theorem isPlain_of_digits {t : Text} (nonempty : t ≠ []) (digits : ∀ c ∈ t, c.isDigit = true) :
    IsPlain t where
  numeric c member := .inl (digits c member)
  digit := (List.exists_mem_of_ne_nil t nonempty).imp fun c member => ⟨member, digits c member⟩
  points := by rw [count_point_of_digits digits]; exact Nat.zero_le 1

theorem isPlain_append_point_iff {whole fraction : Text}
    (digits : ∀ c ∈ whole, c.isDigit = true) :
    IsPlain (whole ++ '.' :: fraction) ↔
      (∀ c ∈ fraction, c.isDigit = true) ∧ whole ++ fraction ≠ [] := by
  constructor
  · intro ⟨numeric, ⟨d, member, digit⟩, points⟩
    rw [List.count_append, count_point_of_digits digits, List.count_cons_self] at points
    refine ⟨fun c inside => ?_, fun none => ?_⟩
    · refine (numeric c (by simp [inside])).resolve_right fun point => ?_
      have := List.count_pos_iff.2 (point ▸ inside)
      omega
    · obtain ⟨rfl, rfl⟩ := List.append_eq_nil_iff.1 none
      rw [List.nil_append, List.mem_singleton] at member
      subst member
      exact absurd digit (by decide)
  · intro ⟨behind, nonempty⟩
    have all : ∀ c ∈ whole ++ fraction, c.isDigit = true := fun c member =>
      (List.mem_append.1 member).elim (digits c) (behind c)
    have plain := isPlain_of_digits nonempty all
    refine ⟨fun c member => ?_, ?_, ?_⟩
    · rcases List.mem_append.1 member with inside | inside
      · exact .inl (digits c inside)
      · exact (List.mem_cons.1 inside).elim .inr fun inside => .inl (behind c inside)
    · obtain ⟨d, member, digit⟩ := plain.digit
      refine ⟨d, ?_, digit⟩
      rcases List.mem_append.1 member with inside | inside <;> simp [inside]
    · simp [count_point_of_digits digits, count_point_of_digits behind]

/-- A plain decimal is exactly what can be read as one. -/
theorem isSome_ofPlain?_iff {t : Text} : (ofPlain? t).isSome = true ↔ IsPlain t := by
  have split := List.takeWhile_append_dropWhile (p := Char.isDigit) (l := t)
  have digits : ∀ c ∈ t.takeWhile Char.isDigit, c.isDigit = true := by
    exact List.all_eq_true.1 List.all_takeWhile
  have stop := List.head?_dropWhile_not Char.isDigit t
  simp only [ofPlain?]
  generalize t.takeWhile Char.isDigit = whole at *
  generalize t.dropWhile Char.isDigit = rest at *
  subst split
  split
  case h_1 =>
    rw [List.append_nil]
    cases whole with
    | nil => simpa using fun plain : IsPlain [] => plain.digit
    | cons d w => simpa using isPlain_of_digits (List.cons_ne_nil d w) digits
  case h_2 fraction =>
    rw [isPlain_append_point_iff digits]
    by_cases good : (fraction.all Char.isDigit && !(whole ++ fraction).isEmpty) = true
    · simp_all
    · rw [if_neg good]
      simp_all
  case h_3 other point =>
    refine iff_of_false (by simp) fun plain => ?_
    cases rest with
    | nil => exact other rfl
    | cons a u =>
      rcases plain.numeric a (by simp) with digit | rfl
      · simp [digit] at stop
      · exact point u rfl

instance (t : Text) : Decidable (IsPlain t) :=
  decidable_of_iff _ isSome_ofPlain?_iff

end Decimal

end Calculator
