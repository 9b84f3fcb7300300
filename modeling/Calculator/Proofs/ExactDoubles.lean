import Calculator.Number.Numeral
import Calculator.Proofs.Arithmetic

/-!
Decimals and doubles are rational numbers here. Rounding takes nothing from a double but the powers
of two that its mantissa has too many, so a decimal with the value of a double is read as this
double. All digits of a double are such a decimal.
-/

namespace Calculator

open Float.Model Float.Model.UnpackedFloat

variable {m : Nat} {e : Int}

/-- A mantissa with the exponent that a double has for it. -/
structure IsDouble (m : Nat) (e : Int) : Prop where
  pos : 0 < m
  canonical : Format.binary64.targetExponent (totalExponent m e) = e
  le : e ≤ 971

theorem targetExponent_eq (t : Int) :
    Format.binary64.targetExponent t = max (t - 53) (-1074) := rfl

theorem IsDouble.totalExponent_le (double : IsDouble m e) : totalExponent m e ≤ e + 53 := by
  have canonical := double.canonical
  rw [targetExponent_eq] at canonical
  omega

theorem IsDouble.neg_le (double : IsDouble m e) : -1074 ≤ e := by
  have canonical := double.canonical
  rw [targetExponent_eq] at canonical
  omega

theorem IsDouble.lt_totalExponent (double : IsDouble m e) : -1074 < totalExponent m e := by
  have low := double.neg_le
  rw [totalExponent]
  omega

/-- A number that is not larger is not rounded to a coarser grid. -/
theorem IsDouble.targetExponent_le (double : IsDouble m e) {t : Int} (le : t ≤ totalExponent m e) :
    Format.binary64.targetExponent t ≤ e := by
  have canonical := double.canonical
  rw [targetExponent_eq] at canonical ⊢
  omega

theorem isDouble_subnormal {v : BitVec 52} (nonzero : v ≠ 0#52) : IsDouble v.toNat (-1074) where
  pos := by simpa [BitVec.toNat_pos, BitVec.pos_iff_ne_zero] using nonzero
  canonical := by
    have digits : v.toNat.log2 < 52 :=
      (Nat.log2_lt fun zero => nonzero (BitVec.eq_of_toNat_eq zero)).2 v.isLt
    rw [targetExponent_eq, totalExponent]
    omega
  le := by decide

theorem isDouble_normal (v : BitVec 52) {w : BitVec 11} (nonzero : w ≠ 0#11) (last : w ≠ -1#11) :
    IsDouble (1#1 ++ v).toNat (w.toNat - 1075) := by
  have lead : (1#1 ++ v).toNat = 2 ^ 52 + v.toNat := by
    rw [BitVec.toNat_append, ← Nat.shiftLeft_add_eq_or_of_lt v.isLt]
    rfl
  have bits := v.isLt
  have digits : (1#1 ++ v).toNat.log2 = 52 := by
    rw [Nat.log2_eq_iff (by omega)]
    omega
  have low : w.toNat ≠ 0 := fun zero => nonzero (BitVec.eq_of_toNat_eq zero)
  have high : w.toNat ≠ 2047 := fun top => last (BitVec.eq_of_toNat_eq top)
  have range := w.isLt
  constructor
  case pos => omega
  case canonical =>
    rw [targetExponent_eq, totalExponent, digits]
    omega
  case le => omega

/-- Whatever a pattern of bits stands for, if it is finite and not zero, is a double. -/
theorem isDouble_of_unpack {b : BitVec Format.binary64.numBits} {sign : Sign} {pos : 0 < m}
    (unpacked : UnpackedFloat.unpack .binary64 b = .finite sign m e pos) : IsDouble m e := by
  simp only [UnpackedFloat.unpack] at unpacked
  split_ifs at unpacked with last infinite subnormal zero
  · obtain ⟨-, rfl, rfl⟩ := UnpackedFloat.finite.inj unpacked
    rw [subnormal]
    exact isDouble_subnormal zero
  · obtain ⟨-, rfl, rfl⟩ := UnpackedFloat.finite.inj unpacked
    exact isDouble_normal _ subnormal last

theorem log2_mul_two_pow (pos : 0 < m) (k : Nat) : (m * 2 ^ k).log2 = m.log2 + k := by
  induction k with
  | zero => simp
  | succ k ih =>
    have nonzero : m * 2 ^ k ≠ 0 := by positivity
    rw [show m * 2 ^ (k + 1) = 2 * (m * 2 ^ k) by ring, Nat.log2_two_mul nonzero, ih, Nat.add_assoc]

/-- Powers of two may be moved between the mantissa and the exponent. -/
theorem totalExponent_mul_pow (pos : 0 < m) (e : Int) (k : Nat) :
    totalExponent (m * 2 ^ k) (e - k) = totalExponent m e := by
  simp only [totalExponent, log2_mul_two_pow pos]
  omega

theorem shiftRight_mul_pow (m k : Nat) :
    (⟨m * 2 ^ k, false, false⟩ : ExtendedMantissa) >>> k = ⟨m, false, false⟩ := by
  change k.repeat ExtendedMantissa.shiftRightOne _ = _
  induction k generalizing m with
  | zero => rw [pow_zero, mul_one]; rfl
  | succ k ih =>
    have step : m * 2 ^ (k + 1) = m * 2 * 2 ^ k := by ring
    rw [Nat.repeat, step, ih]
    simp [ExtendedMantissa.shiftRightOne]

theorem IsDouble.shiftToTargetExponent_eq (double : IsDouble m e) (k : Nat) :
    shiftToTargetExponent .binary64 (m * 2 ^ k) (e - k) .exact = (⟨m, false, false⟩, e) := by
  have amount : (e - (e - k)).toNat = k := by omega
  rw [shiftToTargetExponent, totalExponent_mul_pow double.pos, double.canonical]
  simp only [shiftToExponent, amount, ExtendedMantissa.ofMantissaAndAccuracy, shiftRight_mul_pow,
    Int.sub_add_cancel]

/-- A double is rounded to itself, also with powers of two that its mantissa has too many. -/
theorem IsDouble.roundWithAccuracy_eq (double : IsDouble m e) (sign : Sign) (k : Nat) :
    roundWithAccuracy .binary64 sign (m * 2 ^ k) (e - k) .exact =
      .finite sign m e double.pos := by
  have again : shiftToTargetExponent .binary64 m e .exact = (⟨m, false, false⟩, e) := by
    simpa using double.shiftToTargetExponent_eq 0
  have rounded : (⟨m, false, false⟩ : ExtendedMantissa).roundedMantissa = m := rfl
  simp only [roundWithAccuracy, double.shiftToTargetExponent_eq, rounded, again]
  rw [dif_neg double.pos.ne']

/-! ## Rational values -/

/-- The total exponent is that of the leading bit. -/
theorem le_value (pos : 0 < m) (e : Int) : (2 : ℚ) ^ (totalExponent m e - 1) ≤ m * 2 ^ e := by
  have exponent : totalExponent m e - 1 = m.log2 + e := by rw [totalExponent]; omega
  have bound : ((2 ^ m.log2 : Nat) : ℚ) ≤ m := by exact_mod_cast Nat.log2_self_le pos.ne'
  rw [exponent, zpow_add₀ two_ne_zero, zpow_natCast]
  push_cast at bound
  gcongr

theorem value_lt (m : Nat) (e : Int) : (m : ℚ) * 2 ^ e < 2 ^ totalExponent m e := by
  have bound : (m : ℚ) < ((2 ^ (m.log2 + 1) : Nat) : ℚ) := by exact_mod_cast Nat.lt_log2_self
  have exponent : totalExponent m e = ((m.log2 + 1 : Nat) : Int) + e := rfl
  rw [exponent, zpow_add₀ two_ne_zero, zpow_natCast]
  push_cast at bound
  gcongr

theorem lt_of_zpow_lt {a b : Int} (less : (2 : ℚ) ^ a < 2 ^ b) : a < b :=
  (zpow_lt_zpow_iff_right₀ one_lt_two).1 less

namespace Decimal

/-- The number as a rational. -/
def value (d : Decimal) : ℚ :=
  d.digits * 10 ^ d.exponent

theorem value_normalize (d : Decimal) : d.normalize.value = d.value := by
  fun_induction normalize d with
  | case1 d zero => simp [value, zero]
  | case2 d nonzero divisible ih =>
    have whole : ((d.digits / 10 : Nat) : ℚ) * 10 = d.digits := by
      exact_mod_cast Nat.div_mul_cancel (Nat.dvd_of_mod_eq_zero divisible)
    rw [ih, value, value, ← whole, zpow_add_one₀ (by norm_num)]
    ring
  | case3 => rfl

/-- Decimals of one value are read as one double. -/
theorem toFloat_congr {c d : Decimal} (same : c.value = d.value) : c.toFloat = d.toFloat := by
  wlog less : c.exponent ≤ d.exponent generalizing c d
  · exact (this same.symm (by omega)).symm
  obtain ⟨k, exponent⟩ := Int.exists_add_of_le less
  have digits : (c.digits : ℚ) = d.digits * 10 ^ k := by
    have nonzero : (10 : ℚ) ^ c.exponent ≠ 0 := by positivity
    rw [value, value, exponent, zpow_add₀ (by norm_num), zpow_natCast] at same
    apply mul_right_cancel₀ nonzero
    rw [same]
    ring
  have digits : c.digits = d.digits * Nat.pow 10 k := by exact_mod_cast digits
  calc c.toFloat = toFloat ⟨d.digits * Nat.pow 10 k, c.exponent⟩ := by rw [← digits]
    _ = toFloat ⟨d.digits, c.exponent + k⟩ := toFloat_mul_pow _ _ _
    _ = d.toFloat := by rw [← exponent]

/-! ## Reading what is exact -/

variable {n : Nat} {x : Int}

theorem zpow_two_le_zpow_ten (whole : 0 ≤ x) : (2 : ℚ) ^ x ≤ 10 ^ x :=
  zpow_le_zpow_left₀ whole (by norm_num) (by norm_num)

theorem zpow_ten_le_zpow_two (negative : x ≤ 0) : (10 : ℚ) ^ x ≤ 2 ^ x := by
  have inverse := zpow_two_le_zpow_ten (x := -x) (by omega)
  rw [zpow_neg, zpow_neg] at inverse
  exact (inv_le_inv₀ (by positivity) (by positivity)).1 inverse

theorem lt_totalExponent_of_whole (pos : 0 < n) (whole : 0 ≤ x)
    (same : (n : ℚ) * 10 ^ x = m * 2 ^ e) : x < totalExponent m e := by
  apply lt_of_zpow_lt
  have one : (1 : ℚ) ≤ n := by exact_mod_cast pos
  calc (2 : ℚ) ^ x ≤ 10 ^ x := zpow_two_le_zpow_ten whole
    _ ≤ n * 10 ^ x := le_mul_of_one_le_left (by positivity) one
    _ = m * 2 ^ e := same
    _ < 2 ^ totalExponent m e := value_lt m e

theorem totalExponent_le_of_negative (pos : 0 < m) (negative : x ≤ 0)
    (same : (n : ℚ) * 10 ^ x = m * 2 ^ e) : totalExponent m e ≤ totalExponent n x := by
  have less : totalExponent m e - 1 < totalExponent n x := by
    apply lt_of_zpow_lt
    calc (2 : ℚ) ^ (totalExponent m e - 1) ≤ m * 2 ^ e := le_value pos e
      _ = n * 10 ^ x := same.symm
      _ ≤ n * 2 ^ x := by gcongr; exact zpow_ten_le_zpow_two negative
      _ < 2 ^ totalExponent n x := value_lt n x
  omega

/-- The mantissas of two equal numbers, all powers in them. -/
theorem mul_pow_eq {a p s k : Nat}
    (same : (n : ℚ) * 10 ^ ((a : Int) - p) = m * 2 ^ ((k : Int) - s)) :
    n * 2 ^ s * 10 ^ a = m * 2 ^ k * 10 ^ p := by
  rw [zpow_sub₀ (by norm_num), zpow_sub₀ (by norm_num)] at same
  simp only [zpow_natCast] at same
  field_simp at same
  have cross : (n : ℚ) * 2 ^ s * 10 ^ a = m * 2 ^ k * 10 ^ p := by linarith
  exact_mod_cast cross

/-- Within the range of exponents nothing is cut short. -/
theorem ofScientific_of_range (pos : 0 < n) (low : -(2048 + (n.log2 : Int)) ≤ x)
    (high : x ≤ 2048) :
    UnpackedFloat.ofScientific .binary64 n x =
      if 0 ≤ x then
        roundWithAccuracy .binary64 .positive ((n <<< 53) * 10 ^ x.toNat) (-53) .exact
      else
        let quotient := divCore .binary64 n 0 (10 ^ (-x).toNat) 0
        roundWithAccuracy .binary64 .positive quotient.1 quotient.2.1 quotient.2.2 := by
  have notAbove : ¬ x > 2 ^ Format.binary64.exponentBits := Int.not_lt.2 high
  have notBelow : ¬ x < -((2 ^ Format.binary64.exponentBits : Int) + n.log2) := Int.not_lt.2 low
  rw [UnpackedFloat.ofScientific, dif_neg pos.ne', if_neg notAbove, if_neg notBelow]
  rfl

/-- A whole number of units is multiplied out and not rounded. -/
theorem ofScientific_whole (double : IsDouble m e) (pos : 0 < n) (whole : 0 ≤ x)
    (same : (n : ℚ) * 10 ^ x = m * 2 ^ e) :
    UnpackedFloat.ofScientific .binary64 n x = .finite .positive m e double.pos := by
  have order := lt_totalExponent_of_whole pos whole same
  have high := double.totalExponent_le
  have le := double.le
  rw [ofScientific_of_range pos (by omega) (by omega), if_pos whole]
  obtain ⟨a, rfl⟩ := Int.eq_ofNat_of_zero_le whole
  -- The digits are shifted by 53 bits before they are rounded, which is enough for every exponent.
  obtain ⟨k, rfl⟩ : ∃ k : Nat, e = k - 53 := ⟨(e + 53).toNat, by omega⟩
  have mantissa : (n <<< 53) * 10 ^ a = m * 2 ^ k := by
    rw [Nat.shiftLeft_eq, mul_pow_eq (p := 0) (s := 53) (by simpa using same), pow_zero, mul_one]
  have shift : (-53 : Int) = k - 53 - k := by omega
  rw [Int.toNat_natCast, mantissa, shift, double.roundWithAccuracy_eq]

/-- The leading bits of two numbers say where that of their quotient can be at most. -/
theorem totalExponent_sub_le (pos : 0 < n) {p : Nat}
    (same : (n : ℚ) * 10 ^ (-p : Int) = m * 2 ^ e) :
    totalExponent n 0 - totalExponent (10 ^ p) 0 ≤ totalExponent m e := by
  have less : totalExponent n 0 - 1 < totalExponent m e + totalExponent (10 ^ p) 0 := by
    apply lt_of_zpow_lt
    calc (2 : ℚ) ^ (totalExponent n 0 - 1) ≤ n * 2 ^ (0 : Int) := le_value pos 0
      _ = m * 2 ^ e * ((10 ^ p : Nat) * 2 ^ (0 : Int)) := by
        rw [← same]
        simp
      _ < 2 ^ totalExponent m e * 2 ^ totalExponent (10 ^ p) 0 :=
        mul_lt_mul'' (value_lt m e) (value_lt (10 ^ p) 0) (by positivity) (by positivity)
      _ = _ := (zpow_add₀ two_ne_zero _ _).symm
  omega

/-- The quotient has all the digits that the double needs. -/
theorem divCore_eq (double : IsDouble m e) (pos : 0 < n) {p : Nat}
    (same : (n : ℚ) * 10 ^ (-p : Int) = m * 2 ^ e) :
    ∃ k : Nat, divCore .binary64 n 0 (10 ^ p) 0 = (m * 2 ^ k, e - k, .exact) := by
  have target := double.targetExponent_le (totalExponent_sub_le pos same)
  rw [divCore]
  generalize Format.binary64.targetExponent _ = t at target
  -- As many bits as the double has and more: the division leaves nothing.
  obtain ⟨s, negative⟩ : ∃ s : Nat, min (0 - 0) t = -s := ⟨(-min 0 t).toNat, by omega⟩
  obtain ⟨k, rfl⟩ : ∃ k : Nat, e = k - s := ⟨(e + s).toNat, by omega⟩
  have mantissa : n <<< s = m * 2 ^ k * 10 ^ p := by
    rw [Nat.shiftLeft_eq, ← mul_pow_eq (a := 0) (by simpa using same), pow_zero, mul_one]
  have amount : (0 - 0 - -(s : Int)).toNat = s := by omega
  have exponent : -(s : Int) = k - s - k := by omega
  refine ⟨k, ?_⟩
  simp only [negative, amount, mantissa, Nat.mul_mod_left, ← exponent]
  rw [Nat.mul_div_cancel _ (by positivity)]
  rfl

/-- A fraction is divided out and not rounded. -/
theorem ofScientific_fraction (double : IsDouble m e) (pos : 0 < n) (negative : x < 0)
    (same : (n : ℚ) * 10 ^ x = m * 2 ^ e) :
    UnpackedFloat.ofScientific .binary64 n x = .finite .positive m e double.pos := by
  have order := totalExponent_le_of_negative double.pos negative.le same
  have low := double.lt_totalExponent
  rw [totalExponent.eq_1 n] at order
  rw [ofScientific_of_range pos (by omega) (by omega), if_neg (by omega)]
  have power : x = -((-x).toNat : Int) := by omega
  rw [power] at same
  obtain ⟨k, quotient⟩ := divCore_eq double pos same
  simp only [quotient]
  exact double.roundWithAccuracy_eq _ k

theorem toFloat_zero (e : Int) : toFloat ⟨0, e⟩ = .ofModel (.pack (.zero .positive)) := by
  rw [toFloat, normalize_zero]
  rfl

/-- Where a decimal is a double, nothing is rounded. -/
theorem toFloat_of_value (double : IsDouble m e) {d : Decimal} (same : d.value = m * 2 ^ e) :
    d.toFloat = Target.toFloat ⟨m, e, double.pos⟩ := by
  rw [← value_normalize, value] at same
  have digits : 0 < d.normalize.digits := by
    apply Nat.pos_of_ne_zero
    intro zero
    have pos : (0 : ℚ) < m * 2 ^ e := mul_pos (by exact_mod_cast double.pos) (by positivity)
    simp [← same, zero] at pos
  rw [toFloat, Target.toFloat, Float.Model.ofScientific]
  congr 2
  rcases Int.lt_or_le d.normalize.exponent 0 with negative | whole
  · exact ofScientific_fraction double digits negative same
  · exact ofScientific_whole double digits whole same

theorem Target.value_expansion (x : Target) : x.expansion.value = x.mantissa * 2 ^ x.exponent := by
  rw [expansion]
  split
  case isTrue whole =>
    obtain ⟨k, exponent⟩ := Int.eq_ofNat_of_zero_le whole
    simp [value, numerator, exponent]
  case isFalse negative =>
    obtain ⟨k, exponent⟩ : ∃ k : Nat, x.exponent = -k := ⟨(-x.exponent).toNat, by omega⟩
    have ten : (10 : ℚ) ^ k = 5 ^ k * 2 ^ k := by rw [← mul_pow]; norm_num
    simp only [value, exponent, ten, Int.neg_neg, Int.toNat_natCast, Nat.pow_eq, Nat.cast_mul,
      Nat.cast_pow, Nat.cast_ofNat, zpow_neg, zpow_natCast]
    field_simp

/-- The shortest decimal of a double is read back as the double. -/
theorem toFloat_shortest_of_isDouble (double : IsDouble m e) :
    (shortest ⟨m, e, double.pos⟩).toFloat = Target.toFloat ⟨m, e, double.pos⟩ :=
  toFloat_shortest (toFloat_of_value double (Target.value_expansion _))

end Decimal

theorem pack_unpack_toModel (x : Float) : Float.ofModel (.pack x.toModel.unpack) = x :=
  Float.ofBits_toBits x

theorem neg_neg_unpacked (u : UnpackedFloat) : u.neg.neg = u := by
  cases u with
  | notANumber => rfl
  | infinity sign | zero sign | finite sign => cases sign <;> rfl

/-- A double is its magnitude with its sign. -/
theorem signed_eq {x : Float} {negative : Bool} {u : UnpackedFloat}
    (unpacked : x.toModel.unpack = if negative then u.neg else u) :
    (if negative then -Float.ofModel (.pack u) else Float.ofModel (.pack u)) = x := by
  cases negative with
  | false =>
    have positive : x.toModel.unpack = u := unpacked
    rw [← positive]
    exact pack_unpack_toModel x
  | true =>
    have turned : x.toModel.unpack.neg = u := by
      rw [unpacked]
      exact neg_neg_unpacked u
    rw [← turned]
    exact negate_negate x

/-- Every double is what its numeral stands for. -/
theorem Numeral.toFloat_ofFloat (x : Float) : (ofFloat x).toFloat = x := by
  rw [ofFloat]
  split
  case h_1 unpacked =>
    have packed := pack_unpack_toModel x
    rw [unpacked] at packed
    exact packed
  case h_2 sign unpacked =>
    refine signed_eq (unpacked.trans ?_)
    cases sign <;> rfl
  case h_3 sign unpacked =>
    simp only [toFloat, Decimal.toFloat_zero]
    refine signed_eq (unpacked.trans ?_)
    cases sign <;> rfl
  case h_4 sign m e pos unpacked =>
    simp only [toFloat, Decimal.toFloat_shortest_of_isDouble (isDouble_of_unpack unpacked)]
    refine signed_eq (unpacked.trans ?_)
    cases sign <;> rfl

end Calculator
