import Calculator.Number.Grammar
import Calculator.Proofs.Trimming

/-!
`Spells` gives the number that a text stands for beside the grammar of numbers: the digits on both
sides of the point are one number, and every digit behind the point and the exponent move it by a
power of ten. Reading finds exactly what is spelled.
-/

namespace Calculator

open Text (takeWhile_run dropWhile_run)

namespace Decimal

/-- A plain decimal and its value. -/
inductive SpellsPlain : Text → Decimal → Prop
  | whole {t : Text} (nonempty : t ≠ []) (digits : ∀ c ∈ t, c.isDigit = true) :
      SpellsPlain t ⟨Nat.ofDigitChars 10 t 0, 0⟩
  | point {whole fraction : Text} (before : ∀ c ∈ whole, c.isDigit = true)
      (behind : ∀ c ∈ fraction, c.isDigit = true) (nonempty : whole ++ fraction ≠ []) :
      SpellsPlain (whole ++ '.' :: fraction)
        ⟨Nat.ofDigitChars 10 (whole ++ fraction) 0, -fraction.length⟩

theorem ofPlain?_whole {t : Text} (nonempty : t ≠ []) (digits : ∀ c ∈ t, c.isDigit = true) :
    ofPlain? t = some ⟨Nat.ofDigitChars 10 t 0, 0⟩ := by
  have taken := takeWhile_run digits (t := []) nofun
  have left := dropWhile_run digits (t := []) nofun
  rw [List.append_nil] at taken left
  simp [ofPlain?, taken, left, nonempty]

/-- The point moves the number by the digits behind it. -/
theorem ofPlain?_point {whole fraction : Text} (before : ∀ c ∈ whole, c.isDigit = true)
    (behind : ∀ c ∈ fraction, c.isDigit = true) (nonempty : whole ++ fraction ≠ []) :
    ofPlain? (whole ++ '.' :: fraction) =
      some ⟨Nat.ofDigitChars 10 (whole ++ fraction) 0, -fraction.length⟩ := by
  have stop (a : Char) (first : ('.' :: fraction).head? = some a) : a.isDigit = false := by
    cases first
    rfl
  have good : (fraction.all Char.isDigit && !(whole ++ fraction).isEmpty) = true := by
    rw [List.isEmpty_eq_false_iff.2 nonempty, List.all_eq_true.2 behind]
    rfl
  rw [ofPlain?, takeWhile_run before stop, dropWhile_run before stop]
  simp only [good, if_true]

/-- A plain decimal is read as what it spells. -/
theorem ofPlain?_eq_some_iff {t : Text} {d : Decimal} : ofPlain? t = some d ↔ SpellsPlain t d := by
  constructor
  · intro read
    have split := List.takeWhile_append_dropWhile (p := Char.isDigit) (l := t)
    have before : ∀ c ∈ t.takeWhile Char.isDigit, c.isDigit = true := fun c =>
      List.mem_takeWhile_imp
    rw [ofPlain?] at read
    generalize t.takeWhile Char.isDigit = whole at split before read
    generalize t.dropWhile Char.isDigit = rest at split read
    subst split
    split at read
    case h_1 =>
      by_cases empty : whole = []
      · simp [empty] at read
      · simp only [List.isEmpty_iff, empty, if_false, Option.some.injEq] at read
        subst read
        rw [List.append_nil]
        exact .whole empty before
    case h_2 fraction =>
      split at read
      case isTrue good =>
        simp only [Bool.and_eq_true, List.all_eq_true, Bool.not_eq_true',
          List.isEmpty_eq_false_iff] at good
        cases read
        exact .point before good.1 good.2
      case isFalse => cases read
    case h_3 => cases read
  · rintro (⟨nonempty, digits⟩ | ⟨before, behind, nonempty⟩)
    · exact ofPlain?_whole nonempty digits
    · exact ofPlain?_point before behind nonempty

theorem SpellsPlain.isPlain {t : Text} {d : Decimal} (spells : SpellsPlain t d) : IsPlain t :=
  isSome_ofPlain?_iff.1 (by rw [ofPlain?_eq_some_iff.2 spells]; rfl)

theorem IsPlain.exists_spells {t : Text} (plain : IsPlain t) : ∃ d, SpellsPlain t d := by
  obtain ⟨d, read⟩ := Option.isSome_iff_exists.1 (isSome_ofPlain?_iff.2 plain)
  exact ⟨d, ofPlain?_eq_some_iff.1 read⟩

/-- The number with a sign and digits. -/
def signed (sign digits : Text) : Int :=
  if sign = ['-'] then -Nat.ofDigitChars 10 digits 0 else Nat.ofDigitChars 10 digits 0

/-- What a sign may stand before begins with none. -/
def IsSignless (t : Text) : Prop :=
  t.head? ≠ some '+' ∧ t.head? ≠ some '-'

theorem isSignless_of_digits {t : Text} (digits : ∀ c ∈ t, c.isDigit = true) : IsSignless t := by
  constructor
  · intro first
    exact absurd (digits '+' (List.mem_of_head? first)) (by decide)
  · intro first
    exact absurd (digits '-' (List.mem_of_head? first)) (by decide)

theorem readNat?_eq_some_iff {t : Text} {n : Nat} :
    readNat? t = some n ↔
      (∀ c ∈ t, c.isDigit = true) ∧ t ≠ [] ∧ n = Nat.ofDigitChars 10 t 0 := by
  rw [readNat?, Option.ite_none_right_eq_some, Bool.and_eq_true, List.all_eq_true, Bool.not_eq_true',
    List.isEmpty_eq_false_iff, Option.some_inj, and_assoc, eq_comm (a := n)]

theorem readInt?_of_isSignless {t : Text} (signless : IsSignless t) :
    readInt? t = (readNat? t).map Int.ofNat := by
  unfold readInt?
  split
  · exact absurd rfl signless.1
  · exact absurd rfl signless.2
  · rfl

/-- An exponent is read as the number with its sign. -/
theorem readInt?_eq_some_iff {t : Text} {e : Int} :
    readInt? t = some e ↔
      ∃ sign digits, IsSign sign ∧ (∀ c ∈ digits, c.isDigit = true) ∧ digits ≠ [] ∧
        t = sign ++ digits ∧ e = signed sign digits := by
  constructor
  · intro read
    unfold readInt? at read
    split at read
    case h_1 t =>
      obtain ⟨n, natural, rfl⟩ := Option.map_eq_some_iff.1 read
      obtain ⟨digits, nonempty, rfl⟩ := readNat?_eq_some_iff.1 natural
      exact ⟨['+'], t, .inr (.inl rfl), digits, nonempty, rfl, rfl⟩
    case h_2 t =>
      obtain ⟨i, lifted, rfl⟩ := Option.map_eq_some_iff.1 read
      obtain ⟨n, natural, same⟩ := Option.bind_eq_some_iff.1 lifted
      cases same
      obtain ⟨digits, nonempty, rfl⟩ := readNat?_eq_some_iff.1 natural
      exact ⟨['-'], t, .inr (.inr rfl), digits, nonempty, rfl, rfl⟩
    case h_3 =>
      obtain ⟨n, natural, rfl⟩ := Option.map_eq_some_iff.1 read
      obtain ⟨digits, nonempty, rfl⟩ := readNat?_eq_some_iff.1 natural
      exact ⟨[], t, .inl rfl, digits, nonempty, rfl, rfl⟩
  · rintro ⟨sign, digits, isSign, all, nonempty, rfl, rfl⟩
    have natural := readNat?_eq_some_iff.2 ⟨all, nonempty, rfl⟩
    rcases isSign with rfl | rfl | rfl
    · rw [List.nil_append, readInt?_of_isSignless (isSignless_of_digits all), natural]
      rfl
    · simp [readInt?, natural, signed]
    · simp [readInt?, natural, signed]

/-- A decimal and its value; an exponent moves the point. -/
inductive Spells : Text → Decimal → Prop
  | plain {t : Text} {d : Decimal} (plain : SpellsPlain t d) : Spells t d
  | scaled {t sign digits : Text} {mark : Char} {d : Decimal} (plain : SpellsPlain t d)
      (isMark : mark = 'e' ∨ mark = 'E') (isSign : IsSign sign)
      (all : ∀ c ∈ digits, c.isDigit = true) (nonempty : digits ≠ []) :
      Spells (t ++ mark :: sign ++ digits) ⟨d.digits, d.exponent + signed sign digits⟩

theorem isExponentMark_iff {c : Char} : isExponentMark c = true ↔ c = 'e' ∨ c = 'E' := by
  simp [isExponentMark]

theorem IsPlain.not_isExponentMark {t : Text} (plain : IsPlain t) :
    ∀ c ∈ t, (!isExponentMark c) = true := by
  intro c member
  rw [Bool.not_eq_true', Bool.eq_false_iff, ne_eq, isExponentMark_iff]
  rcases plain.numeric c member with digit | rfl
  · rintro (rfl | rfl) <;> revert digit <;> decide
  · decide

theorem ofScientific?_plain {t : Text} (unmarked : ∀ c ∈ t, (!isExponentMark c) = true) :
    ofScientific? t = ofPlain? t := by
  rw [ofScientific?, List.dropWhile_eq_nil_iff.2 unmarked]

/-- The first mark ends the plain decimal. -/
theorem ofScientific?_scaled {t exponent : Text} {mark : Char}
    (unmarked : ∀ c ∈ t, (!isExponentMark c) = true) (isMark : isExponentMark mark = true) :
    ofScientific? (t ++ mark :: exponent) = do
      let d ← ofPlain? t
      let e ← readInt? exponent
      return ⟨d.digits, d.exponent + e⟩ := by
  have stop (a : Char) (first : (mark :: exponent).head? = some a) :
      (!isExponentMark a) = false := by
    cases first
    rw [isMark]
    rfl
  rw [ofScientific?, takeWhile_run unmarked stop, dropWhile_run unmarked stop]

/-- A decimal is read as what it spells. -/
theorem ofScientific?_eq_some_iff {t : Text} {d : Decimal} :
    ofScientific? t = some d ↔ Spells t d := by
  constructor
  · intro read
    have split := List.takeWhile_append_dropWhile (p := fun c => !isExponentMark c) (l := t)
    have unmarked : ∀ c ∈ t.takeWhile fun c => !isExponentMark c, (!isExponentMark c) = true :=
      fun c => List.mem_takeWhile_imp
    have stop := List.head?_dropWhile_not (fun c => !isExponentMark c) t
    generalize t.takeWhile (fun c => !isExponentMark c) = front at split unmarked
    generalize t.dropWhile (fun c => !isExponentMark c) = rest at split stop
    subst split
    cases rest with
    | nil =>
      rw [List.append_nil] at read ⊢
      rw [ofScientific?_plain unmarked] at read
      exact .plain (ofPlain?_eq_some_iff.1 read)
    | cons mark exponent =>
      have isMark : isExponentMark mark = true := by simpa using stop
      rw [ofScientific?_scaled unmarked isMark] at read
      obtain ⟨d, plain, read⟩ := Option.bind_eq_some_iff.1 read
      obtain ⟨e, scale, same⟩ := Option.bind_eq_some_iff.1 read
      obtain ⟨sign, digits, isSign, all, nonempty, rfl, rfl⟩ := readInt?_eq_some_iff.1 scale
      cases same
      rw [← List.cons_append, ← List.append_assoc]
      exact .scaled (ofPlain?_eq_some_iff.1 plain) (isExponentMark_iff.1 isMark) isSign all nonempty
  · intro spells
    cases spells with
    | plain plain =>
      rw [ofScientific?_plain plain.isPlain.not_isExponentMark, ofPlain?_eq_some_iff]
      exact plain
    | @scaled t sign digits mark d plain isMark isSign all nonempty =>
      have scale := readInt?_eq_some_iff.2 ⟨sign, digits, isSign, all, nonempty, rfl, rfl⟩
      rw [List.append_assoc, List.cons_append,
        ofScientific?_scaled plain.isPlain.not_isExponentMark (isExponentMark_iff.2 isMark),
        ofPlain?_eq_some_iff.2 plain, scale]
      rfl

/-- Exactly the decimals spell something. -/
theorem isScientific_iff {t : Text} : IsScientific t ↔ ∃ d, Spells t d := by
  constructor
  · intro scientific
    cases scientific with
    | plain plain =>
      obtain ⟨d, spells⟩ := plain.exists_spells
      exact ⟨d, .plain spells⟩
    | scaled plain isMark isSign nonempty all =>
      obtain ⟨d, spells⟩ := plain.exists_spells
      exact ⟨_, .scaled spells isMark isSign all nonempty⟩
  · rintro ⟨d, spells⟩
    cases spells with
    | plain plain => exact .plain plain.isPlain
    | scaled plain isMark isSign all nonempty =>
      exact .scaled plain.isPlain isMark isSign nonempty all

/-- A decimal begins with a digit or with its point. -/
theorem IsScientific.exists_head {t : Text} (scientific : IsScientific t) :
    ∃ c s, t = c :: s ∧ (c.isDigit = true ∨ c = '.') := by
  have begins {t : Text} (plain : IsPlain t) : ∃ c s, t = c :: s ∧ (c.isDigit = true ∨ c = '.') := by
    obtain ⟨d, member, -⟩ := plain.digit
    obtain ⟨c, s, rfl⟩ := List.exists_cons_of_ne_nil (List.ne_nil_of_mem member)
    exact ⟨c, s, rfl, plain.numeric c List.mem_cons_self⟩
  cases scientific with
  | plain plain => exact begins plain
  | scaled plain =>
    obtain ⟨c, s, rfl, first⟩ := begins plain
    exact ⟨c, _, rfl, first⟩

theorem Spells.exists_head {t : Text} {d : Decimal} (spells : Spells t d) :
    ∃ c s, t = c :: s ∧ (c.isDigit = true ∨ c = '.') :=
  (isScientific_iff.2 ⟨d, spells⟩).exists_head

/-- A decimal ends with a digit or with its point. -/
theorem IsScientific.of_getLast? {t : Text} (scientific : IsScientific t) {c : Char}
    (last : t.getLast? = some c) : c.isDigit = true ∨ c = '.' := by
  cases scientific with
  | plain plain => exact plain.numeric c (List.mem_of_getLast? last)
  | scaled plain isMark isSign nonempty all =>
    rw [List.getLast?_append_of_ne_nil _ nonempty] at last
    exact .inl (all c (List.mem_of_getLast? last))

end Decimal

namespace Numeral

open Decimal (IsSign IsSignless IsScientific)

/-! ## Numerals -/

/-- A numeral with the words of arguments, and its value. -/
inductive Spells : Text → Numeral → Prop
  | notANumber {sign : Text} (isSign : IsSign sign) :
      Spells (sign ++ NumberWords.long.notANumber) ⟨sign = ['-'], .notANumber⟩
  | infinity {sign : Text} (isSign : IsSign sign) :
      Spells (sign ++ NumberWords.long.infinity) ⟨sign = ['-'], .infinity⟩
  | finite {sign t : Text} {d : Decimal} (isSign : IsSign sign) (decimal : Decimal.Spells t d) :
      Spells (sign ++ t) ⟨sign = ['-'], .finite d⟩

/-- What stands behind a sign: a word or a decimal. -/
inductive SpellsMagnitude : Text → Magnitude → Prop
  | notANumber : SpellsMagnitude NumberWords.long.notANumber .notANumber
  | infinity : SpellsMagnitude NumberWords.long.infinity .infinity
  | finite {t : Text} {d : Decimal} (decimal : Decimal.Spells t d) :
      SpellsMagnitude t (.finite d)

/-- A numeral is a sign and a magnitude. -/
theorem spells_iff {t : Text} {n : Numeral} :
    Spells t n ↔ ∃ sign s, IsSign sign ∧ SpellsMagnitude s n.magnitude ∧ t = sign ++ s ∧
      n.negative = decide (sign = ['-']) := by
  constructor
  · intro spells
    cases spells with
    | notANumber isSign => exact ⟨_, _, isSign, .notANumber, rfl, rfl⟩
    | infinity isSign => exact ⟨_, _, isSign, .infinity, rfl, rfl⟩
    | finite isSign decimal => exact ⟨_, _, isSign, .finite decimal, rfl, rfl⟩
  · obtain ⟨negative, magnitude⟩ := n
    rintro ⟨sign, s, isSign, spells, rfl, rfl⟩
    cases spells with
    | notANumber => exact .notANumber isSign
    | infinity => exact .infinity isSign
    | finite decimal => exact .finite isSign decimal

theorem SpellsMagnitude.isSignless {t : Text} {m : Magnitude} (spells : SpellsMagnitude t m) :
    IsSignless t := by
  cases spells with
  | notANumber => exact ⟨by decide, by decide⟩
  | infinity => exact ⟨by decide, by decide⟩
  | finite decimal =>
    obtain ⟨c, s, rfl, first⟩ := decimal.exists_head
    constructor
    · rintro ⟨⟩
      exact absurd first (by decide)
    · rintro ⟨⟩
      exact absurd first (by decide)

theorem readMagnitude?_eq_some_iff {t : Text} {m : Magnitude} :
    readMagnitude? .long t = some m ↔ SpellsMagnitude t m := by
  constructor
  · intro read
    rw [readMagnitude?] at read
    split_ifs at read with notANumber infinity
    · cases read
      exact notANumber ▸ .notANumber
    · cases read
      exact infinity ▸ .infinity
    · obtain ⟨d, decimal, rfl⟩ := Option.map_eq_some_iff.1 read
      exact .finite (Decimal.ofScientific?_eq_some_iff.1 decimal)
  · intro spells
    cases spells with
    | notANumber => rfl
    | infinity => rfl
    | @finite t d decimal =>
      -- Neither word begins as a decimal does.
      obtain ⟨c, s, rfl, first⟩ := decimal.exists_head
      have word : c :: s ≠ NumberWords.long.notANumber ∧ c :: s ≠ NumberWords.long.infinity := by
        constructor
        · intro same
          cases (List.cons.inj same).1
          exact absurd first (by decide)
        · intro same
          cases (List.cons.inj same).1
          exact absurd first (by decide)
      rw [readMagnitude?, if_neg word.1, if_neg word.2, Decimal.ofScientific?_eq_some_iff.2 decimal]
      rfl

theorem read?_of_isSignless {words : NumberWords} {t : Text} (signless : IsSignless t) :
    read? words t = (readMagnitude? words t).map (⟨false, ·⟩) := by
  unfold read?
  split
  · exact absurd rfl signless.1
  · exact absurd rfl signless.2
  · rfl

/-- A numeral is read as what it spells. -/
theorem read?_eq_some_iff {t : Text} {n : Numeral} : read? .long t = some n ↔ Spells t n := by
  rw [spells_iff]
  constructor
  · intro read
    unfold read? at read
    split at read
    case h_1 t =>
      obtain ⟨m, magnitude, rfl⟩ := Option.map_eq_some_iff.1 read
      exact ⟨['+'], t, .inr (.inl rfl), readMagnitude?_eq_some_iff.1 magnitude, rfl, rfl⟩
    case h_2 t =>
      obtain ⟨m, magnitude, rfl⟩ := Option.map_eq_some_iff.1 read
      exact ⟨['-'], t, .inr (.inr rfl), readMagnitude?_eq_some_iff.1 magnitude, rfl, rfl⟩
    case h_3 =>
      obtain ⟨m, magnitude, rfl⟩ := Option.map_eq_some_iff.1 read
      exact ⟨[], t, .inl rfl, readMagnitude?_eq_some_iff.1 magnitude, rfl, rfl⟩
  · obtain ⟨negative, magnitude⟩ := n
    rintro ⟨sign, s, isSign, spells, rfl, rfl⟩
    have read := readMagnitude?_eq_some_iff.2 spells
    rcases isSign with rfl | rfl | rfl
    · rw [List.nil_append, read?_of_isSignless spells.isSignless, read]
      rfl
    · simp [read?, read]
    · simp [read?, read]

theorem Spells.ne_nil {t : Text} {n : Numeral} (spells : Spells t n) : t ≠ [] := by
  rintro rfl
  have unread : read? .long [] = none := by decide
  rw [read?_eq_some_iff.2 spells] at unread
  cases unread

/-- Exactly the numerals spell something. -/
theorem isNumeral_iff {t : Text} : IsNumeral .long t ↔ ∃ n, Spells t n := by
  constructor
  · intro numeral
    cases numeral with
    | notANumber isSign => exact ⟨_, .notANumber isSign⟩
    | infinity isSign => exact ⟨_, .infinity isSign⟩
    | finite isSign decimal =>
      obtain ⟨d, spells⟩ := Decimal.isScientific_iff.1 decimal
      exact ⟨_, .finite isSign spells⟩
  · rintro ⟨n, spells⟩
    cases spells with
    | notANumber isSign => exact .notANumber isSign
    | infinity isSign => exact .infinity isSign
    | finite isSign decimal => exact .finite isSign (Decimal.isScientific_iff.2 ⟨_, decimal⟩)

end Numeral

end Calculator
