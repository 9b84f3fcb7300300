import Calculator.Proofs.Arguments
import Calculator.Proofs.Commands
import Calculator.Proofs.ExactDoubles
import Calculator.Proofs.JsonNumbers

/-!
What is written for a decimal spells a decimal of the same value, whatever its layout. What is
written for a double is therefore an argument with this double as its value.
-/

namespace Calculator

namespace Decimal

open Json (isDigit_of_mem_toDigits)

variable {d : Decimal}

theorem ofDigitChars_numerals (d : Decimal) : Nat.ofDigitChars 10 d.numerals 0 = d.digits :=
  Nat.ofDigitChars_ten_toDigits

theorem ofDigitChars_zeros_append (count : Nat) (t : Text) :
    Nat.ofDigitChars 10 (zeros count ++ t) 0 = Nat.ofDigitChars 10 t 0 := by
  rw [Nat.ofDigitChars_append, zeros, Nat.ofDigitChars_replicate_zero, Nat.mul_zero]

/-- Every zero behind the digits is a factor of ten. -/
theorem ofDigitChars_append_zeros (t : Text) (count : Nat) :
    Nat.ofDigitChars 10 (t ++ zeros count) 0 = Nat.ofDigitChars 10 t 0 * 10 ^ count := by
  rw [Nat.ofDigitChars_append, zeros, Nat.ofDigitChars_replicate_zero, Nat.mul_comm]

theorem ofDigitChars_zero_cons (t : Text) :
    Nat.ofDigitChars 10 ('0' :: t) 0 = Nat.ofDigitChars 10 t 0 :=
  ofDigitChars_zeros_append 1 t

theorem isDigit_of_mem_numerals {c : Char} (member : c ∈ d.numerals) : c.isDigit = true :=
  isDigit_of_mem_toDigits member

/-- The number with these digits around its point. -/
theorem spellsPlain_point (whole fraction : Text) (before : ∀ c ∈ whole, c.isDigit = true)
    (behind : ∀ c ∈ fraction, c.isDigit = true) (nonempty : whole ++ fraction ≠ [])
    (digits : Nat.ofDigitChars 10 (whole ++ fraction) 0 = d.digits)
    (exponent : d.exponent = -fraction.length) :
    SpellsPlain (whole ++ '.' :: fraction) d := by
  have spells := SpellsPlain.point before behind nonempty
  rw [digits, ← exponent] at spells
  exact spells

/-- Zeros stand for the exponent, and one more behind the point. -/
theorem spellsPlain_whole (d : Decimal) (k : Nat) :
    SpellsPlain (d.numerals ++ zeros k ++ ['.', '0']) ⟨d.digits * 10 ^ (k + 1), -1⟩ := by
  refine spellsPlain_point (d.numerals ++ zeros k) (zeros 1) ?_ ?_ ?_ ?_ rfl
  · rw [List.forall_mem_append]
    exact ⟨fun c => isDigit_of_mem_numerals, fun c => isDigit_of_mem_zeros⟩
  · exact fun c => isDigit_of_mem_zeros
  · simp [zeros]
  · have run : zeros k ++ zeros 1 = zeros (k + 1) := List.replicate_append_replicate
    rw [List.append_assoc, run, ofDigitChars_append_zeros, ofDigitChars_numerals]

/-- The point stands among the digits. -/
theorem spellsPlain_inside (negative : d.exponent < 0) (pos : 0 < d.magnitude) :
    SpellsPlain (d.numerals.take d.magnitude.toNat ++ '.' :: d.numerals.drop d.magnitude.toNat)
      d := by
  refine spellsPlain_point _ _ ?_ ?_ ?_ ?_ ?_
  · exact fun c member => isDigit_of_mem_numerals (List.mem_of_mem_take member)
  · exact fun c member => isDigit_of_mem_numerals (List.mem_of_mem_drop member)
  · rw [List.take_append_drop]
    exact Nat.toDigits_ne_nil
  · rw [List.take_append_drop, ofDigitChars_numerals]
  · rw [List.length_drop]
    simp only [magnitude] at *
    omega

/-- Zeros stand between the point and the digits. -/
theorem spellsPlain_behind (small : d.magnitude ≤ 0) :
    SpellsPlain ('0' :: '.' :: zeros (-d.magnitude).toNat ++ d.numerals) d := by
  refine spellsPlain_point ['0'] (zeros (-d.magnitude).toNat ++ d.numerals) ?_ ?_ ?_ ?_ ?_
  · simp
  · rw [List.forall_mem_append]
    exact ⟨fun c => isDigit_of_mem_zeros, fun c => isDigit_of_mem_numerals⟩
  · simp
  · rw [List.singleton_append, ofDigitChars_zero_cons, ofDigitChars_zeros_append,
      ofDigitChars_numerals]
  · rw [List.length_append, zeros, List.length_replicate]
    simp only [magnitude] at *
    omega

/-- In each of the three layouts the value is kept. -/
theorem exists_spells_positional (d : Decimal) :
    ∃ c, SpellsPlain d.positional c ∧ c.value = d.value := by
  rw [positional]
  split
  case isTrue whole =>
    obtain ⟨k, exponent⟩ := Int.eq_ofNat_of_zero_le whole
    rw [exponent, Int.toNat_natCast]
    refine ⟨_, spellsPlain_whole d k, ?_⟩
    have ten : (10 : ℚ) ^ (-1 : Int) = 10⁻¹ := by norm_num
    rw [value, value, exponent, zpow_natCast, ten]
    push_cast
    ring
  case isFalse negative =>
    split
    case isTrue pos => exact ⟨d, spellsPlain_inside (by omega) pos, rfl⟩
    case isFalse small => exact ⟨d, spellsPlain_behind (by omega), rfl⟩

/-- The first digit before the point, and no point where no other digit is. -/
theorem spellsPlain_leading (d : Decimal) :
    let fraction := d.numerals.drop 1
    SpellsPlain (d.numerals.take 1 ++ if fraction.isEmpty then [] else '.' :: fraction)
      ⟨d.digits, -fraction.length⟩ := by
  intro fraction
  have around : d.numerals.take 1 ++ fraction = d.numerals := List.take_append_drop 1 d.numerals
  by_cases alone : fraction = []
  · have first : d.numerals.take 1 = d.numerals := by rwa [alone, List.append_nil] at around
    have spells : SpellsPlain d.numerals ⟨Nat.ofDigitChars 10 d.numerals 0, 0⟩ :=
      .whole Nat.toDigits_ne_nil fun c => isDigit_of_mem_numerals
    rw [ofDigitChars_numerals] at spells
    simpa [alone, first] using spells
  · rw [if_neg (by simpa using alone)]
    refine spellsPlain_point _ _ ?_ ?_ ?_ ?_ rfl
    · exact fun c member => isDigit_of_mem_numerals (List.mem_of_mem_take member)
    · exact fun c member => isDigit_of_mem_numerals (List.mem_of_mem_drop member)
    · rw [around]
      exact Nat.toDigits_ne_nil
    · rw [around, ofDigitChars_numerals]

theorem signed_exponentText (e : Int) (count : Nat) :
    signed [if e < 0 then '-' else '+'] (zeros count ++ Nat.toDigits 10 e.natAbs) = e := by
  rw [signed, ofDigitChars_zeros_append, Nat.ofDigitChars_ten_toDigits]
  by_cases negative : e < 0
  · simp only [negative, if_true]
    omega
  · simp only [negative, if_false]
    rw [if_neg (by decide)]
    omega

theorem spells_exponentText {t : Text} {c : Decimal} (plain : SpellsPlain t c) (e : Int) :
    Spells (t ++ 'e' :: exponentText e) ⟨c.digits, c.exponent + e⟩ := by
  have isSign : IsSign [if e < 0 then '-' else '+'] := by
    rw [IsSign]
    split <;> simp
  have digits : ∀ c ∈ zeros (2 - (Nat.toDigits 10 e.natAbs).length) ++ Nat.toDigits 10 e.natAbs,
      c.isDigit = true :=
    fun c => isDigit_of_mem_zeros_append
  have spells := Spells.scaled plain (.inl rfl) isSign digits (by simp)
  rw [signed_exponentText] at spells
  simpa [exponentText] using spells

/-- The exponent makes up for the place of the point. -/
theorem spells_scientific (d : Decimal) : Spells d.scientific d := by
  have spells := spells_exponentText (spellsPlain_leading d) (d.magnitude - 1)
  have length : 0 < d.numerals.length := List.length_pos_iff.2 Nat.toDigits_ne_nil
  have exponent : -((d.numerals.drop 1).length : Int) + (d.magnitude - 1) = d.exponent := by
    rw [List.length_drop, magnitude]
    omega
  rw [exponent] at spells
  exact spells

theorem exists_spells_write (d : Decimal) : ∃ c, Spells d.write c ∧ c.value = d.value := by
  rw [write]
  split
  case isTrue zero =>
    have spells : SpellsPlain ['0', '.', '0'] ⟨0, -1⟩ :=
      spellsPlain_point ['0'] ['0'] (by simp) (by simp) (by simp) (by decide) rfl
    refine ⟨_, .plain spells, ?_⟩
    simp [value, zero]
  case isFalse =>
    split
    case isTrue =>
      obtain ⟨c, plain, same⟩ := exists_spells_positional d
      exact ⟨c, .plain plain, same⟩
    case isFalse => exact ⟨d, spells_scientific d, rfl⟩

end Decimal

namespace Numeral

theorem exists_spells_write (n : Numeral) :
    ∃ m, Spells (n.write .long) m ∧ m.toFloat = n.toFloat := by
  obtain ⟨c, spells, same⟩ : ∃ c, SpellsMagnitude (n.magnitude.write .long) c ∧
      toFloat ⟨n.negative, c⟩ = n.toFloat := by
    obtain ⟨negative, magnitude⟩ := n
    cases magnitude with
    | notANumber => exact ⟨.notANumber, .notANumber, rfl⟩
    | infinity => exact ⟨.infinity, .infinity, rfl⟩
    | finite d =>
      obtain ⟨c, spells, same⟩ := d.exists_spells_write
      refine ⟨.finite c, .finite spells, ?_⟩
      simp only [toFloat, Decimal.toFloat_congr same]
  refine ⟨⟨n.negative, c⟩, spells_iff.2 ?_, same⟩
  rw [write]
  cases n.negative with
  | false => exact ⟨[], _, .inl rfl, spells, rfl, rfl⟩
  | true => exact ⟨['-'], _, .inr (.inr rfl), spells, rfl, rfl⟩

end Numeral

open Numeral

/-- What is written for a double spells the double. -/
theorem NumberWords.exists_spells_write (x : Float) :
    ∃ n, Spells (NumberWords.long.write x) n ∧ n.toFloat = x := by
  obtain ⟨n, spells, same⟩ := (ofFloat x).exists_spells_write
  exact ⟨n, spells, same.trans (toFloat_ofFloat x)⟩

theorem isArgument_write (x : Float) : IsArgument (NumberWords.long.write x) := by
  obtain ⟨n, spells, -⟩ := NumberWords.exists_spells_write x
  exact ⟨_, [], (List.append_nil _).symm, isNumeral_iff.2 ⟨n, spells⟩, .inl rfl⟩

/-- No blank and no suffix letter is written, so nothing is dropped. -/
theorem readArgument_of_write (function : String) (x : Float) :
    readArgument function (NumberWords.long.write x) = .ok x := by
  obtain ⟨n, spells, rfl⟩ := NumberWords.exists_spells_write x
  refine readArgument_of_spells spells (.inl rfl) ?_ function
  rw [List.append_nil]
  exact (isArgument_write _).trim_eq

theorem NamedFunction.call_write (f : NamedFunction) (x : Float) :
    f.call (NumberWords.long.write x) =
      match f.value? x with
      | some y => .ok y
      | none => .error (.negativeRadicand (NumberWords.long.write x)) := by
  rw [call, readArgument_of_write]
  rfl

/-- Nothing is trimmed off a visible argument behind the name of a function. -/
theorem Session.reply_of_isVisible (settings : Settings) (f : NamedFunction) {t : Text}
    (nonempty : t ≠ []) (visible : ∀ c ∈ t, IsVisible c) :
    reply settings (f.name.toList ++ ' ' :: t) =
      replyWith settings ((f.call t).mapError ArgumentError.advice) := by
  have blank : ∀ a ∈ ([] : Text), Text.isBlank a = true := nofun
  have cased : f.name.toList.map Char.toLower = f.name.toList := by cases f <;> decide
  have content : ∃ a ∈ t, Text.isBlank a = false := by
    obtain ⟨c, member⟩ := List.exists_mem_of_ne_nil t nonempty
    exact ⟨c, member, (visible c member).isBlank⟩
  have whole : t.rdropWhile Text.isBlank = t :=
    Text.rdropWhile_eq_self fun c last => (visible c (List.mem_of_getLast? last)).isBlank
  have calls := call?_word blank cased content
  rw [whole] at calls
  exact reply_of_call (isExit_word blank cased content) calls settings

/-- What is written for a double, the signed zeros, the infinities and what is not a number among
them, is read as this double and as no other. Typed behind the name of a function it gives the value
of the function there. -/
theorem readArgument_write (settings : Settings) (function : String) (x : Float) :
    let written := NumberWords.long.write x
    readArgument function written = .ok x ∧
    ∀ f : NamedFunction, Session.reply settings (f.name.toList ++ ' ' :: written) =
      match f.value? x with
      | some y => .answer (answer settings y)
      | none => .refusal (ArgumentError.negativeRadicand written).advice := by
  intro written
  refine ⟨readArgument_of_write function x, fun f => ?_⟩
  obtain ⟨n, spells, -⟩ := NumberWords.exists_spells_write x
  have visible := (isArgument_write x).isVisible
  rw [Session.reply_of_isVisible settings f spells.ne_nil visible, f.call_write]
  cases f.value? x <;> rfl

end Calculator
