import Calculator.Text.Letters

namespace Calculator

/-- The value of a variable, if it is set. -/
abbrev Environment := String → Option String

/-- The prompt of a session and the ornament of its answers. -/
structure Settings where
  prompt : Text := ['>', ' ']
  /-- Whether answers begin with an emoji. -/
  emoji : Bool := true
deriving DecidableEq, Repr

namespace Settings

/-- Whether a switch is turned on: by `1`, `true` or `yes`, in any case and with blanks around. -/
def isOn (t : Text) : Bool :=
  let word := Text.lower (Text.trim Text.isBlank t)
  word = "1".toList || word = "true".toList || word = "yes".toList

/-- The prompt is the value of `MADCALC_PROMPT`, if it is set, and `MADCALC_PLAIN` turns the emoji
off. -/
def ofEnvironment (environment : Environment) : Settings where
  prompt := ((environment "MADCALC_PROMPT").map String.toList).getD ['>', ' ']
  emoji := !((environment "MADCALC_PLAIN").any fun value => isOn value.toList)

end Settings

end Calculator
