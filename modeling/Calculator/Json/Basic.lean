import Calculator.Number.Printer

namespace Calculator

/-- A JSON value. A number is kept as the text that stands for it, and the fields of an object in
their order. -/
inductive Json where
  | null
  | bool (value : Bool)
  | number (text : Text)
  | string (text : Text)
  | array (items : List Json)
  | object (fields : List (Text × Json))
deriving Repr

namespace Json

/-- A finite double is a number; the others have no number in JSON and are named by a string. -/
def ofFloat (x : Float) : Json :=
  let text := NumberWords.short.write x
  if (Numeral.ofFloat x).isFinite then number text else string text

end Json

end Calculator
