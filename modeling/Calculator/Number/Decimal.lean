import Calculator.Text.Blank

namespace Calculator

/-- The number `digits * 10 ^ exponent`. -/
structure Decimal where
  digits : Nat
  exponent : Int
deriving DecidableEq, Repr

namespace Decimal

/-- The same number without zeros at the end of its digits; zero has exponent zero. -/
def normalize (d : Decimal) : Decimal :=
  if d.digits = 0 then ⟨0, 0⟩
  else if d.digits % 10 = 0 then normalize ⟨d.digits / 10, d.exponent + 1⟩
  else d
termination_by d.digits
decreasing_by exact Nat.div_lt_self (by omega) (by decide)

/-- The nearest double, a tie going to the even neighbour; infinity where the number is out of
range. Decimals of one value give one double. -/
def toFloat (d : Decimal) : Float :=
  .ofModel (.ofScientific d.normalize.digits d.normalize.exponent)

/-- The decimal digits, the most significant first. -/
def numerals (d : Decimal) : Text :=
  Nat.toDigits 10 d.digits

/-- The power of ten just above the number. -/
def magnitude (d : Decimal) : Int :=
  d.numerals.length + d.exponent

theorem normalize_zero (e : Int) : normalize ⟨0, e⟩ = ⟨0, 0⟩ := by
  rw [normalize]; simp

theorem normalize_mul_ten (n : Nat) (e : Int) :
    normalize ⟨n * 10, e⟩ = normalize ⟨n, e + 1⟩ := by
  by_cases zero : n = 0
  · subst zero; rw [Nat.zero_mul, normalize_zero, normalize_zero]
  · rw [normalize, if_neg (by omega : n * 10 ≠ 0), if_pos (Nat.mul_mod_left n 10),
      Nat.mul_div_cancel n (by decide)]

/-- Zeros at the end of the digits do not count. -/
theorem normalize_mul_pow (n k : Nat) (e : Int) :
    normalize ⟨n * Nat.pow 10 k, e⟩ = normalize ⟨n, e + k⟩ := by
  induction k generalizing e with
  | zero => simp [Nat.pow]
  | succ k ih =>
    rw [show Nat.pow 10 (k + 1) = Nat.pow 10 k * 10 from rfl, ← Nat.mul_assoc,
      normalize_mul_ten, ih]
    congr 2
    omega

theorem toFloat_mul_pow (n k : Nat) (e : Int) :
    toFloat ⟨n * Nat.pow 10 k, e⟩ = toFloat ⟨n, e + k⟩ := by
  simp only [toFloat, normalize_mul_pow]

end Decimal

end Calculator
