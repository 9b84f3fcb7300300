import Calculator.Text.Blank

namespace Calculator.Text

/-- The last `width` hexadecimal digits of a number, the most significant first. -/
def hex : (width n : Nat) → Text
  | 0, _ => []
  | width + 1, n => hex width (n / 16) ++ [Nat.digitChar (n % 16)]

/-- The value of a digit in either case. -/
def hexDigit? (c : Char) : Option Nat :=
  if '0' ≤ c ∧ c ≤ '9' then some (c.toNat - '0'.toNat)
  else if 'a' ≤ c ∧ c ≤ 'f' then some (c.toNat - 'a'.toNat + 10)
  else if 'A' ≤ c ∧ c ≤ 'F' then some (c.toNat - 'A'.toNat + 10)
  else none

/-- The number with these digits and nothing else. -/
def readHex? (t : Text) : Option Nat :=
  t.foldlM (fun n c => (hexDigit? c).map (16 * n + ·)) 0

@[simp] theorem length_hex (width n : Nat) : (hex width n).length = width := by
  induction width generalizing n with
  | zero => rfl
  | succ width ih => simp [hex, ih]

theorem hexDigit?_digitChar {n : Nat} (small : n < 16) :
    hexDigit? (Nat.digitChar n) = some n := by
  have all : ∀ m : Fin 16, hexDigit? (Nat.digitChar m) = some m.val := by decide
  exact all ⟨n, small⟩

/-- What is written is read back, the digits beyond the width apart. -/
theorem readHex?_hex (width n : Nat) :
    readHex? (hex width n) = some (n % Nat.pow 16 width) := by
  induction width generalizing n with
  | zero => simp [hex, readHex?, Nat.mod_one]
  | succ width ih =>
    simp only [readHex?] at ih ⊢
    rw [hex, List.foldlM_append, ih]
    simp [hexDigit?_digitChar (Nat.mod_lt n (by decide : 0 < 16)), Nat.pow_succ',
      Nat.mod_mul, Nat.add_comm]

end Calculator.Text
