import Calculator.Number.Decimal

namespace Calculator.Decimal

/-- The double `mantissa * 2 ^ exponent`, which decimals are tested against. -/
structure Target where
  mantissa : Nat
  exponent : Int
  pos : 0 < mantissa

namespace Target

/-- The double itself. -/
def toFloat (x : Target) : Float :=
  .ofModel (.pack (.finite .positive x.mantissa x.exponent x.pos))

/-- The target is `numerator / denominator`. -/
def numerator (x : Target) : Nat := x.mantissa * Nat.pow 2 x.exponent.toNat

def denominator (x : Target) : Nat := Nat.pow 2 (-x.exponent).toNat

/-- The least power of ten above the target. -/
def magnitude (x : Target) : Int :=
  let k : Int := (Nat.toDigits 10 x.numerator).length - (Nat.toDigits 10 x.denominator).length
  if x.numerator * Nat.pow 10 (-k).toNat < x.denominator * Nat.pow 10 k.toNat then k else k + 1

/-- The two neighbours of the target among the multiples of `10 ^ grid`, the nearer one first, of
two equally near ones the even one. -/
def neighbours (x : Target) (grid : Int) : List Decimal :=
  let n := x.numerator * Nat.pow 10 (-grid).toNat
  let d := x.denominator * Nat.pow 10 grid.toNat
  let below := n / d
  let twice := 2 * (n % d)
  if twice < d ∨ twice = d ∧ below % 2 = 0 then [⟨below, grid⟩, ⟨below + 1, grid⟩]
  else [⟨below + 1, grid⟩, ⟨below, grid⟩]

/-- The nearest neighbour that is read back as the target. -/
def onGrid? (x : Target) (grid : Int) : Option Decimal :=
  (x.neighbours grid).find? fun d => d.toFloat = x.toFloat

/-- All digits of the target. -/
def expansion (x : Target) : Decimal :=
  if 0 ≤ x.exponent then ⟨x.numerator, 0⟩
  else ⟨x.mantissa * Nat.pow 5 (-x.exponent).toNat, x.exponent⟩

end Target

/-- The decimal by which a double is shown: the one with the fewest digits that is read back as the
same double, and of those the nearest to it. Each number of digits from one to seventeen fixes a
grid of powers of ten, and these are tried in turn. -/
def shortest (x : Target) : Decimal :=
  let magnitude := x.magnitude
  let found := (List.range' 1 17).findSome? fun (count : Nat) => x.onGrid? (magnitude - count)
  (found.getD x.expansion).normalize

theorem normalize_normalize (d : Decimal) : d.normalize.normalize = d.normalize := by
  fun_induction normalize d with
  | case1 => exact normalize_zero 0
  | case2 d nonzero divisible ih => exact ih
  | case3 d nonzero indivisible => rw [normalize]; simp [nonzero, indivisible]

theorem toFloat_normalize (d : Decimal) : d.normalize.toFloat = d.toFloat := by
  simp only [toFloat, normalize_normalize]

theorem Target.toFloat_of_onGrid? {x : Target} {grid : Int} {d : Decimal}
    (found : x.onGrid? grid = some d) : d.toFloat = x.toFloat := by
  simpa using List.find?_some found

/-- What is tested is read back, and what is not tested has all digits. -/
theorem toFloat_shortest {x : Target} (reads : x.expansion.toFloat = x.toFloat) :
    (shortest x).toFloat = x.toFloat := by
  simp only [shortest, toFloat_normalize]
  cases found :
      (List.range' 1 17).findSome? fun (count : Nat) => x.onGrid? (x.magnitude - count) with
  | none => exact reads
  | some d =>
    obtain ⟨count, _, tested⟩ := List.exists_of_findSome?_eq_some found
    exact x.toFloat_of_onGrid? tested

end Calculator.Decimal
