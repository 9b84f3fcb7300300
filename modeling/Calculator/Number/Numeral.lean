import Calculator.Number.Shortest

namespace Calculator

/-- A number without its sign. -/
inductive Magnitude where
  | notANumber
  | infinity
  | finite (value : Decimal)
deriving DecidableEq, Repr

/-- What is written for a double: a sign and either a decimal, infinity or not a number. -/
structure Numeral where
  negative : Bool
  magnitude : Magnitude
deriving DecidableEq, Repr

/-- The words for what has no digits. -/
structure NumberWords where
  notANumber : Text
  infinity : Text

namespace Numeral

/-- The double for which the numeral stands. -/
def toFloat (n : Numeral) : Float :=
  let value : Float := match n.magnitude with
    | .notANumber => .ofModel (.pack .notANumber)
    | .infinity => .ofModel (.pack (.infinity .positive))
    | .finite d => d.toFloat
  if n.negative then -value else value

open Float.Model.UnpackedFloat in
/-- The sign of what is not a number is not shown. -/
def ofFloat (x : Float) : Numeral :=
  match x.toModel.unpack with
  | .notANumber => ⟨false, .notANumber⟩
  | .infinity sign => ⟨sign == .negative, .infinity⟩
  | .zero sign => ⟨sign == .negative, .finite ⟨0, 0⟩⟩
  | .finite sign mantissa exponent pos =>
    ⟨sign == .negative, .finite (.shortest ⟨mantissa, exponent, pos⟩)⟩

/-- Whether the numeral has digits. -/
def isFinite (n : Numeral) : Bool :=
  match n.magnitude with
  | .finite _ => true
  | _ => false

end Numeral

end Calculator
