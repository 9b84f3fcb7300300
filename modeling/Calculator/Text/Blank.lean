namespace Calculator

/-- A text as the sequence of its characters, in which positions are counted. -/
abbrev Text := List Char

namespace Text

/-- What is left out anywhere in an expression: space, tab, line feed, vertical tab, form feed and
carriage return. -/
def isSeparator (c : Char) : Bool :=
  c = ' ' || (9 ≤ c.toNat && c.toNat ≤ 13)

/-- What is left out around a line: white space of any script, with the four information separators
U+001C to U+001F. -/
def isBlank (c : Char) : Bool :=
  let n := c.toNat
  (9 ≤ n && n ≤ 13) || (0x1C ≤ n && n ≤ 0x20) || n = 0x85 || n = 0xA0 || n = 0x1680 ||
    (0x2000 ≤ n && n ≤ 0x200A) || n = 0x2028 || n = 0x2029 || n = 0x202F || n = 0x205F ||
    n = 0x3000

/-- What is left out around the argument of a function: the space and everything below it. -/
def isLow (c : Char) : Bool :=
  c.toNat ≤ 0x20

/-- The text without the characters of a class at its two ends. -/
def trim (p : Char → Bool) (t : Text) : Text :=
  ((t.dropWhile p).reverse.dropWhile p).reverse

/-- The text without its separators. -/
def strip (t : Text) : Text :=
  t.filter fun c => !isSeparator c

theorem isBlank_of_isSeparator {c : Char} (h : isSeparator c = true) : isBlank c = true := by
  simp only [isSeparator, isBlank, Bool.or_eq_true, Bool.and_eq_true, decide_eq_true_eq] at *
  rcases h with rfl | h
  · decide
  · simp [h]

theorem isLow_of_isSeparator {c : Char} (h : isSeparator c = true) : isLow c = true := by
  simp only [isSeparator, isLow, Bool.or_eq_true, Bool.and_eq_true, decide_eq_true_eq] at *
  rcases h with rfl | h
  · decide
  · omega

theorem isSeparator_of_isDigit {a : Char} (digit : a.isDigit = true) : isSeparator a = false := by
  have large : 48 ≤ a.toNat := by
    simp only [Char.isDigit, Bool.and_eq_true, decide_eq_true_eq] at digit
    exact digit.1
  have noSpace : a ≠ ' ' := by
    rintro rfl
    exact absurd digit (by decide)
  simp only [isSeparator, noSpace, decide_false, Bool.false_or, Bool.and_eq_false_iff,
    decide_eq_false_iff_not]
  omega

theorem mem_strip {c : Char} {t : Text} : c ∈ strip t ↔ c ∈ t ∧ isSeparator c = false := by
  simp [strip]

@[simp] theorem strip_append (s t : Text) : strip (s ++ t) = strip s ++ strip t := by
  simp [strip]

theorem strip_eq_self {t : Text} (h : ∀ c ∈ t, isSeparator c = false) : strip t = t := by
  rw [strip, List.filter_eq_self]
  intro c member
  simp [h c member]

end Text

end Calculator
