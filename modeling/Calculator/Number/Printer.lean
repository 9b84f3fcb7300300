import Calculator.Number.Numeral

namespace Calculator

namespace Decimal

def zeros (count : Nat) : Text :=
  List.replicate count '0'

/-- The digits around a point; `magnitude` of them stand before it. -/
def positional (d : Decimal) : Text :=
  if 0 ≤ d.exponent then d.numerals ++ zeros d.exponent.toNat ++ ['.', '0']
  else if 0 < d.magnitude then
    d.numerals.take d.magnitude.toNat ++ '.' :: d.numerals.drop d.magnitude.toNat
  else '0' :: '.' :: zeros (-d.magnitude).toNat ++ d.numerals

/-- The exponent with its sign. -/
def exponentText (e : Int) : Text :=
  let digits := Nat.toDigits 10 e.natAbs
  (if e < 0 then '-' else '+') :: zeros (2 - digits.length) ++ digits

/-- One digit, the others behind a point, and a signed exponent of at least two digits. -/
def scientific (d : Decimal) : Text :=
  let fraction := d.numerals.drop 1
  d.numerals.take 1 ++ (if fraction.isEmpty then [] else '.' :: fraction) ++
    'e' :: exponentText (d.magnitude - 1)

/-- A decimal whose leading digit stands for `10 ^ e` is written in positions where `-4 ≤ e < 16`,
and otherwise with an exponent. -/
def write (d : Decimal) : Text :=
  if d.digits = 0 then ['0', '.', '0']
  else if -4 < d.magnitude ∧ d.magnitude ≤ 16 then d.positional
  else d.scientific

end Decimal

/-- The text of a magnitude, with a word for what has no digits. -/
def Magnitude.write (words : NumberWords) : Magnitude → Text
  | .notANumber => words.notANumber
  | .infinity => words.infinity
  | .finite d => d.write

namespace Numeral

def write (words : NumberWords) (n : Numeral) : Text :=
  if n.negative then '-' :: n.magnitude.write words else n.magnitude.write words

end Numeral

namespace NumberWords

/-- The words of records. -/
def short : NumberWords := ⟨['n', 'a', 'n'], ['i', 'n', 'f']⟩

/-- The words of answers and arguments. -/
def long : NumberWords := ⟨"NaN".toList, "Infinity".toList⟩

/-- What is written for a double. -/
def write (words : NumberWords) (x : Float) : Text :=
  (Numeral.ofFloat x).write words

end NumberWords

end Calculator
