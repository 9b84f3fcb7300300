import Calculator.Number.Printer

namespace Calculator

namespace Decimal

/-- Digits with at most one point among them. -/
def ofPlain? (t : Text) : Option Decimal :=
  let whole := t.takeWhile Char.isDigit
  match t.dropWhile Char.isDigit with
  | [] => if whole.isEmpty then none else some ⟨Nat.ofDigitChars 10 whole 0, 0⟩
  | '.' :: fraction =>
    if fraction.all Char.isDigit && !(whole ++ fraction).isEmpty then
      some ⟨Nat.ofDigitChars 10 (whole ++ fraction) 0, -fraction.length⟩
    else none
  | _ => none

/-- At least one digit. -/
def readNat? (t : Text) : Option Nat :=
  if t.all Char.isDigit && !t.isEmpty then some (Nat.ofDigitChars 10 t 0) else none

/-- At least one digit behind an optional sign. -/
def readInt? : Text → Option Int
  | '+' :: t => (readNat? t).map Int.ofNat
  | '-' :: t => (readNat? t).map fun n => -(n : Int)
  | t => (readNat? t).map Int.ofNat

def isExponentMark (c : Char) : Bool :=
  c = 'e' || c = 'E'

/-- A plain decimal with an optional exponent. -/
def ofScientific? (t : Text) : Option Decimal :=
  match t.dropWhile fun c => !isExponentMark c with
  | [] => ofPlain? t
  | _ :: exponent => do
    let d ← ofPlain? (t.takeWhile fun c => !isExponentMark c)
    let e ← readInt? exponent
    return ⟨d.digits, d.exponent + e⟩

end Decimal

namespace Numeral

/-- One of the two words, or a decimal. -/
def readMagnitude? (words : NumberWords) (t : Text) : Option Magnitude :=
  if t = words.notANumber then some .notANumber
  else if t = words.infinity then some .infinity
  else (Decimal.ofScientific? t).map .finite

/-- A magnitude behind an optional sign. -/
def read? (words : NumberWords) : Text → Option Numeral
  | '+' :: t => (readMagnitude? words t).map (⟨false, ·⟩)
  | '-' :: t => (readMagnitude? words t).map (⟨true, ·⟩)
  | t => (readMagnitude? words t).map (⟨false, ·⟩)

/-- The letters that may end an argument. -/
def isSuffix (c : Char) : Bool :=
  c = 'f' || c = 'F' || c = 'd' || c = 'D'

/-- The text without a suffix letter at its end. -/
def dropSuffix (t : Text) : Text :=
  if t.getLast?.any isSuffix then t.dropLast else t

/-- A numeral with an optional suffix letter. -/
def readArgument? (t : Text) : Option Numeral :=
  read? .long (dropSuffix t)

end Numeral

end Calculator
