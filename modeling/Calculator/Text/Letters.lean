import Calculator.Text.Blank

namespace Calculator.Text

/-- A letter is lowered only where the result can meet an ASCII keyword: the letters A to Z, the
dotted capital I, whose lower case is an `i` with a dot above, and the Kelvin sign, whose lower case
is `k`. All others stand for themselves. -/
def lowerChar (c : Char) : Text :=
  if c = '\u0130' then ['i', '\u0307']
  else if c = '\u212A' then ['k']
  else [c.toLower]

/-- The lower-case form, as far as an ASCII word can tell. -/
def lower (t : Text) : Text :=
  t.flatMap lowerChar

@[simp] theorem lower_append (s t : Text) : lower (s ++ t) = lower s ++ lower t := by
  simp [lower]

end Calculator.Text
