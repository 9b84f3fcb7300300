import Calculator.Json.Reader
import Calculator.Number.Printer
import Calculator.Proofs.Trimming

/-!
A number of JSON has digits before the point, of which a zero is the first only if it is alone, at
least one digit behind a point, and an exponent with digits. What is written for a natural number,
for a decimal and for a finite double is such a number.
-/

namespace Calculator

namespace Json

open Text (takeWhile_run dropWhile_run)

variable {t whole fraction exponent : Text}

/-- The digits before the point. -/
structure IsWhole (t : Text) : Prop where
  ne_nil : t ≠ []
  digits : ∀ c ∈ t, c.isDigit = true
  zero : t.head? = some '0' → t.length = 1

/-- A number without a sign before it. -/
structure IsUnsigned (t : Text) : Prop where
  isNumber : isNumber t = true
  head?_ne : t.head? ≠ some '-'

theorem head_of_isExponent {c : Char} (scale : isExponent exponent = true)
    (first : exponent.head? = some c) : c = 'e' ∨ c = 'E' := by
  cases exponent with
  | nil => cases first
  | cons a t =>
    cases first
    simp only [isExponent, Bool.and_eq_true, Bool.or_eq_true, decide_eq_true_eq] at scale
    exact scale.1.1

theorem isExponent_nil : isExponent [] = true := rfl

theorem isExponent_signed {sign : Char} (isSign : sign = '+' ∨ sign = '-') (nonempty : t ≠ [])
    (digits : ∀ c ∈ t, c.isDigit = true) : isExponent ('e' :: sign :: t) = true := by
  have signed : (sign :: t).head? = some '+' ∨ (sign :: t).head? = some '-' := by
    simpa using isSign
  simp only [isExponent, if_pos signed]
  simpa [nonempty] using digits

theorem IsWhole.head?_append_ne (isWhole : IsWhole whole) (t : Text) :
    (whole ++ t).head? ≠ some '-' := by
  obtain ⟨c, rest, rfl⟩ := List.exists_cons_of_ne_nil isWhole.ne_nil
  rintro ⟨⟩
  exact absurd (isWhole.digits '-' List.mem_cons_self) (by decide)

/-- Behind the digits before the point only what is left decides. -/
theorem IsWhole.isNumber_append (isWhole : IsWhole whole)
    (stop : ∀ c, t.head? = some c → c.isDigit = false) :
    isNumber (whole ++ t) =
      if t.head? = some '.' then
        !((t.drop 1).takeWhile Char.isDigit).isEmpty &&
          isExponent ((t.drop 1).dropWhile Char.isDigit)
      else isExponent t := by
  have zero : (whole.head? != some '0' || decide (whole.length = 1)) = true := by
    by_cases first : whole.head? = some '0'
    · simp [isWhole.zero first]
    · simp [first]
  simp only [isNumber, if_neg (isWhole.head?_append_ne t), takeWhile_run isWhole.digits stop,
    dropWhile_run isWhole.digits stop, zero, List.isEmpty_eq_false_iff.2 isWhole.ne_nil]
  rfl

theorem isUnsigned_whole (isWhole : IsWhole whole) (scale : isExponent exponent = true) :
    IsUnsigned (whole ++ exponent) := by
  have stop (c : Char) (first : exponent.head? = some c) : c.isDigit = false ∧ c ≠ '.' := by
    rcases head_of_isExponent scale first with rfl | rfl <;> decide
  have noPoint : exponent.head? ≠ some '.' := fun point => (stop '.' point).2 rfl
  refine ⟨?_, isWhole.head?_append_ne _⟩
  rw [isWhole.isNumber_append fun c first => (stop c first).1, if_neg noPoint, scale]

theorem isUnsigned_fraction (isWhole : IsWhole whole) (nonempty : fraction ≠ [])
    (digits : ∀ c ∈ fraction, c.isDigit = true) (scale : isExponent exponent = true) :
    IsUnsigned (whole ++ '.' :: fraction ++ exponent) := by
  have stop (c : Char) (first : exponent.head? = some c) : c.isDigit = false := by
    rcases head_of_isExponent scale first with rfl | rfl <;> decide
  rw [List.append_assoc]
  refine ⟨?_, isWhole.head?_append_ne _⟩
  rw [isWhole.isNumber_append fun c first => by cases first; decide]
  simp [takeWhile_run digits stop, dropWhile_run digits stop, nonempty, scale]

theorem IsUnsigned.isNumber_minus (unsigned : IsUnsigned t) :
    Json.isNumber ('-' :: t) = true := by
  simpa [Json.isNumber, unsigned.head?_ne] using unsigned.isNumber

theorem isNumeric_of_isDigit {c : Char} (digit : c.isDigit = true) : isNumeric c = true := by
  simp [isNumeric, digit]

theorem isNumeric_of_isExponent (scale : isExponent t = true) : ∀ c ∈ t, isNumeric c = true := by
  cases t with
  | nil => simp
  | cons mark t =>
    simp only [isExponent, Bool.and_eq_true, Bool.or_eq_true, decide_eq_true_eq,
      List.all_eq_true] at scale
    obtain ⟨⟨isMark, -⟩, digits⟩ := scale
    have behind : ∀ c ∈ t, isNumeric c = true := by
      intro c member
      split at digits
      case isTrue signed =>
        cases t with
        | nil => cases member
        | cons sign t =>
          rcases List.mem_cons.1 member with rfl | inside
          · rcases signed with signed | signed <;> cases signed <;> decide
          · exact isNumeric_of_isDigit (digits c inside)
      case isFalse => exact isNumeric_of_isDigit (digits c member)
    intro c member
    rcases List.mem_cons.1 member with rfl | inside
    · rcases isMark with rfl | rfl <;> decide
    · exact behind c inside

/-- All of a number may stand in a number. -/
theorem isNumeric_of_isNumber (number : isNumber t = true) : ∀ c ∈ t, isNumeric c = true := by
  have split (s : Text) : ∀ c ∈ s, c.isDigit = true ∨ c ∈ s.dropWhile Char.isDigit := by
    intro c member
    rw [← List.takeWhile_append_dropWhile (p := Char.isDigit) (l := s)] at member
    exact (List.mem_append.1 member).imp_left List.mem_takeWhile_imp
  have scaled {s : Text} (rest : isExponent (s.dropWhile Char.isDigit) = true) :
      ∀ c ∈ s, isNumeric c = true := fun c member =>
    (split s c member).elim isNumeric_of_isDigit (isNumeric_of_isExponent rest c)
  have unsigned {s : Text} (number : isNumber ('-' :: s) = true) :
      ∀ c ∈ s, isNumeric c = true := by
    simp only [isNumber, List.head?_cons, if_true, List.drop_one, List.tail_cons,
      Bool.and_eq_true] at number
    split at number
    case isTrue point =>
      intro c member
      rcases split s c member with digit | inside
      · exact isNumeric_of_isDigit digit
      obtain ⟨a, u, behind⟩ := List.exists_cons_of_ne_nil (List.ne_nil_of_mem inside)
      simp only [behind, List.head?_cons, Option.some.injEq, List.tail_cons] at point number
      rw [behind] at inside
      rcases List.mem_cons.1 inside with rfl | inside
      · subst point; decide
      · exact scaled (Bool.and_eq_true_iff.1 number.2).2 c inside
    case isFalse => exact scaled number.2
  by_cases negative : t.head? = some '-'
  · obtain ⟨s, rfl⟩ := List.head?_eq_some_iff.1 negative
    intro c member
    rcases List.mem_cons.1 member with rfl | inside
    · decide
    · exact unsigned number c inside
  · exact unsigned (IsUnsigned.mk number negative).isNumber_minus

theorem isDigit_of_mem_toDigits {n : Nat} {c : Char} (member : c ∈ Nat.toDigits 10 n) :
    c.isDigit = true :=
  Nat.isDigit_of_mem_toDigits (by decide) (by decide) member

theorem head?_toDigits_ne {n : Nat} (nonzero : n ≠ 0) :
    (Nat.toDigits 10 n).head? ≠ some '0' := by
  induction n using Nat.strongRecOn with
  | ind n ih =>
    rw [Nat.toDigits_eq_if (by decide)]
    split
    case isTrue small =>
      have all : ∀ m : Fin 10, m.val ≠ 0 → Nat.digitChar m ≠ '0' := by decide
      simpa using all ⟨n, small⟩ nonzero
    case isFalse large =>
      rw [List.head?_append_of_ne_nil _ Nat.toDigits_ne_nil]
      exact ih _ (by omega) (by omega)

theorem isWhole_toDigits (n : Nat) : IsWhole (Nat.toDigits 10 n) where
  ne_nil := Nat.toDigits_ne_nil
  digits _ := isDigit_of_mem_toDigits
  zero first := by
    by_cases zero : n = 0
    · subst zero; rfl
    · exact absurd first (head?_toDigits_ne zero)

/-- A natural number is written as a number. -/
theorem isNumber_toDigits (n : Nat) : isNumber (Nat.toDigits 10 n) = true := by
  simpa using (isUnsigned_whole (isWhole_toDigits n) isExponent_nil).isNumber

end Json

/-! ## Decimals -/

namespace Decimal

open Json

variable {d : Decimal}

theorem isDigit_of_mem_zeros {count : Nat} {c : Char} (member : c ∈ zeros count) :
    c.isDigit = true := by
  rw [List.eq_of_mem_replicate member]
  decide

theorem isDigit_of_mem_zeros_append {count n : Nat} {c : Char}
    (member : c ∈ zeros count ++ Nat.toDigits 10 n) : c.isDigit = true :=
  (List.mem_append.1 member).elim isDigit_of_mem_zeros isDigit_of_mem_toDigits

/-- Some of the first digits of a number that is not zero, with other digits behind them. -/
theorem isWhole_take (nonzero : d.digits ≠ 0) {count : Nat} (pos : 0 < count) {t : Text}
    (digits : ∀ c ∈ t, c.isDigit = true) : IsWhole (d.numerals.take count ++ t) := by
  have nonempty : d.numerals.take count ≠ [] := by
    simp [numerals, Nat.ne_of_gt pos]
  refine ⟨by simp [nonempty], fun c member => ?_, fun zero => ?_⟩
  · exact (List.mem_append.1 member).elim
      (fun inside => isDigit_of_mem_toDigits (List.mem_of_mem_take inside)) (digits c)
  · rw [List.head?_append_of_ne_nil _ nonempty, List.head?_take, if_neg (Nat.ne_of_gt pos)] at zero
    exact absurd zero (head?_toDigits_ne nonzero)

theorem isExponent_exponentText (e : Int) : isExponent ('e' :: exponentText e) = true := by
  simp only [exponentText, List.cons_append]
  exact isExponent_signed (by split <;> simp) (by simp) fun c => isDigit_of_mem_zeros_append

/-- In each layout there are digits on both sides of the point. -/
theorem isUnsigned_positional (nonzero : d.digits ≠ 0) : IsUnsigned d.positional := by
  rw [positional]
  split
  case isTrue =>
    have pos : 0 < d.numerals.length := List.length_pos_iff.2 Nat.toDigits_ne_nil
    have isWhole := isWhole_take nonzero pos (t := zeros d.exponent.toNat)
      fun c => isDigit_of_mem_zeros
    rw [List.take_length] at isWhole
    have digit : ∀ c ∈ ['0'], c.isDigit = true := by simp
    simpa using isUnsigned_fraction isWhole (List.cons_ne_nil '0' []) digit isExponent_nil
  split
  case isTrue negative pos =>
    have some : 0 < d.magnitude.toNat := by omega
    have isWhole := isWhole_take nonzero some (t := []) (by simp)
    have more : d.numerals.drop d.magnitude.toNat ≠ [] := by
      rw [← List.length_pos_iff, List.length_drop]
      simp only [magnitude] at *
      omega
    have digits : ∀ c ∈ d.numerals.drop d.magnitude.toNat, c.isDigit = true :=
      fun c member => isDigit_of_mem_toDigits (List.mem_of_mem_drop member)
    simpa using isUnsigned_fraction isWhole more digits isExponent_nil
  case isFalse =>
    have zero : IsWhole ['0'] := ⟨by simp, by simp, by simp⟩
    have nonempty : zeros (-d.magnitude).toNat ++ d.numerals ≠ [] := by simp [numerals]
    simpa using isUnsigned_fraction zero nonempty (fun c => isDigit_of_mem_zeros_append)
      isExponent_nil

theorem isUnsigned_scientific (nonzero : d.digits ≠ 0) : IsUnsigned d.scientific := by
  have isWhole := isWhole_take nonzero Nat.one_pos (t := []) (by simp)
  have scale := isExponent_exponentText (d.magnitude - 1)
  rw [List.append_nil] at isWhole
  simp only [scientific]
  cases fraction : d.numerals.drop 1 with
  | nil => simpa using isUnsigned_whole isWhole scale
  | cons c t =>
    have digits : ∀ b ∈ c :: t, b.isDigit = true := fun b member =>
      isDigit_of_mem_toDigits (List.mem_of_mem_drop (fraction ▸ member))
    exact isUnsigned_fraction isWhole (by simp) digits scale

/-- Every layout of a decimal is a number. -/
theorem isUnsigned_write (d : Decimal) : IsUnsigned d.write := by
  rw [write]
  split
  · exact ⟨rfl, by simp⟩
  split
  · exact isUnsigned_positional ‹_›
  · exact isUnsigned_scientific ‹_›

end Decimal

theorem Numeral.isNumber_write {n : Numeral} (finite : n.isFinite = true) (words : NumberWords) :
    Json.isNumber (n.write words) = true := by
  obtain ⟨negative, magnitude⟩ := n
  cases magnitude with
  | notANumber => cases finite
  | infinity => cases finite
  | finite d =>
    cases negative with
    | false => exact d.isUnsigned_write.isNumber
    | true => exact d.isUnsigned_write.isNumber_minus

/-- Exactly the finite doubles have digits. -/
theorem Numeral.isFinite_ofFloat (x : Float) : (ofFloat x).isFinite = x.isFinite := by
  change _ = x.toModel.unpack.isFinite
  rw [ofFloat]
  cases x.toModel.unpack <;> rfl

open Float.Model in
/-- Of the two infinities one is above what is finite. -/
theorem lt_infinity_iff {x : UnpackedFloat} (finite : x.isFinite = true)
    {sign : UnpackedFloat.Sign} : x.lt (.infinity sign) = true ↔ sign = .positive := by
  cases x with
  | notANumber => cases finite
  | infinity => cases finite
  | zero | finite =>
    cases sign with
    | positive => exact iff_of_true rfl rfl
    | negative => exact iff_of_false Bool.false_ne_true nofun

open Float.Model in
theorem zero_lt_of_unpack {x : Float} {sign : UnpackedFloat.Sign}
    (infinite : x.toModel.unpack = .infinity sign) : 0 < x ↔ sign = .positive := by
  have finite : (0 : Float).toModel.unpack.isFinite = true := by decide
  have compare : 0 < x ↔ (0 : Float).toModel.unpack.lt x.toModel.unpack = true :=
    decide_eq_true_iff
  rw [compare, infinite]
  exact lt_infinity_iff finite

open Float.Model in
theorem NumberWords.write_of_not_isFinite {x : Float} (infinite : x.isFinite = false)
    (words : NumberWords) :
    words.write x =
      if x.isNaN then words.notANumber else if 0 < x then words.infinity
        else '-' :: words.infinity := by
  rw [write, Numeral.ofFloat]
  change x.toModel.unpack.isFinite = false at infinite
  change _ = if x.toModel.unpack.isNaN then _ else _
  cases unpacked : x.toModel.unpack with
  | notANumber => rfl
  | infinity sign =>
    have number : ¬ (UnpackedFloat.infinity sign).isNaN = true := Bool.false_ne_true
    have above := zero_lt_of_unpack unpacked
    rw [if_neg number]
    cases sign with
    | positive => rw [if_pos (above.2 rfl)]; rfl
    | negative => rw [if_neg fun pos => by cases above.1 pos]; rfl
  | zero => rw [unpacked] at infinite; cases infinite
  | finite => rw [unpacked] at infinite; cases infinite

/-- The doubles that are not finite are named by a string. -/
theorem Json.ofFloat_eq (x : Float) :
    ofFloat x =
      if x.isFinite then .number (NumberWords.short.write x)
      else .string (if x.isNaN then "nan".toList else if 0 < x then "inf".toList
        else "-inf".toList) := by
  simp only [ofFloat, Numeral.isFinite_ofFloat]
  cases finite : x.isFinite with
  | true => rfl
  | false =>
    simp only [NumberWords.write_of_not_isFinite finite]
    rfl

end Calculator
