namespace Calculator

/-- The kind to which a failure belongs. -/
inductive ErrorKind where
  | mismatchedParentheses
  | unexpectedCharacter
  | invalidNumberLiteral
  | notANumber
  | negativeRadicand
deriving DecidableEq, Repr

/-- The name of the kind in records and diagnostics. -/
def ErrorKind.word : ErrorKind → String
  | mismatchedParentheses => "mismatched-parentheses"
  | unexpectedCharacter => "unexpected-character"
  | invalidNumberLiteral => "invalid-number-literal"
  | notANumber => "not-a-number"
  | negativeRadicand => "negative-radicand"

theorem ErrorKind.word_injective {k l : ErrorKind} (h : k.word = l.word) : k = l := by
  revert h; cases k <;> cases l <;> decide

end Calculator
