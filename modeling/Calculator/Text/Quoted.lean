import Calculator.Text.Hex
import Calculator.Text.Printable

namespace Calculator.Text

def apostrophe : Char := '\x27'

def quotationMark : Char := '\x22'

def backslash : Char := '\\'

/-- The mark at both ends of the quoted text: an apostrophe, or a quotation mark where the text
holds an apostrophe and no quotation mark. -/
def delimiter (t : Text) : Char :=
  if apostrophe ∈ t ∧ quotationMark ∉ t then quotationMark else apostrophe

/-- One character as it stands between two marks. A character that is not printable is written by
its code point, in two, four or eight hexadecimal digits. -/
def escapeChar (mark c : Char) : Text :=
  if c = mark ∨ c = backslash then [backslash, c]
  else if c = '\t' then [backslash, 't']
  else if c = '\n' then [backslash, 'n']
  else if c = '\r' then [backslash, 'r']
  else if isPrintable c then [c]
  else if c.toNat < 0x100 then backslash :: 'x' :: hex 2 c.toNat
  else if c.toNat < 0x10000 then backslash :: 'u' :: hex 4 c.toNat
  else backslash :: 'U' :: hex 8 c.toNat

/-- A text between two marks, with escapes for what cannot stand there as it is. -/
def quoted (t : Text) : Text :=
  delimiter t :: t.flatMap (escapeChar (delimiter t)) ++ [delimiter t]

/-- The character with the code point in the first digits, and what is behind them. -/
def readCodePoint? (width : Nat) (t : Text) : Option (Char × Text) :=
  if t.length < width then none
  else (readHex? (t.take width)).bind fun n =>
    if n.isValidChar then some (Char.ofNat n, t.drop width) else none

/-- The character that is escaped behind a backslash, and what is behind it. -/
def readEscape? : Text → Option (Char × Text)
  | [] => none
  | c :: t =>
    if c = apostrophe ∨ c = quotationMark ∨ c = backslash then some (c, t)
    else if c = 't' then some ('\t', t)
    else if c = 'n' then some ('\n', t)
    else if c = 'r' then some ('\r', t)
    else if c = 'x' then readCodePoint? 2 t
    else if c = 'u' then readCodePoint? 4 t
    else if c = 'U' then readCodePoint? 8 t
    else none

theorem length_of_readCodePoint? {width : Nat} {t rest : Text} {c : Char}
    (read : readCodePoint? width t = some (c, rest)) : rest.length ≤ t.length := by
  rw [readCodePoint?] at read
  split at read
  · cases read
  · obtain ⟨n, _, valid⟩ := Option.bind_eq_some_iff.1 read
    split at valid
    · cases valid; simp
    · cases valid

theorem length_of_readEscape? {t rest : Text} {c : Char}
    (read : readEscape? t = some (c, rest)) : rest.length < t.length := by
  cases t with
  | nil => cases read
  | cons a t =>
    have behind : rest.length ≤ t.length := by
      have same {d : Char} (read : some (d, t) = some (c, rest)) : rest.length ≤ t.length := by
        cases read; exact Nat.le_refl _
      simp only [readEscape?] at read
      split at read; · exact same read
      split at read; · exact same read
      split at read; · exact same read
      split at read; · exact same read
      split at read; · exact length_of_readCodePoint? read
      split at read; · exact length_of_readCodePoint? read
      split at read; · exact length_of_readCodePoint? read
      cases read
    simp only [List.length_cons]; omega

/-- The text up to the closing mark, and what is behind the mark. -/
def readUpTo? (mark : Char) : Text → Option (Text × Text)
  | [] => none
  | c :: t =>
    if c = mark then some ([], t)
    else if c = backslash then
      match _escape : readEscape? t with
      | some (d, rest) => (readUpTo? mark rest).map fun read => (d :: read.1, read.2)
      | none => none
    else (readUpTo? mark t).map fun read => (c :: read.1, read.2)
termination_by t => t.length
decreasing_by
  · have := length_of_readEscape? _escape; simp only [List.length_cons]; omega
  · simp

/-- The text that is quoted at the start, and what is behind it. -/
def readQuoted? : Text → Option (Text × Text)
  | [] => none
  | mark :: t => if mark = apostrophe ∨ mark = quotationMark then readUpTo? mark t else none

theorem readCodePoint?_hex_append {width : Nat} {c : Char} (rest : Text)
    (fits : c.toNat < Nat.pow 16 width) :
    readCodePoint? width (hex width c.toNat ++ rest) = some (c, rest) := by
  have digits : (hex width c.toNat ++ rest).take width = hex width c.toNat := by
    rw [List.take_append_of_le_length (by simp), List.take_of_length_le (by simp)]
  have behind : (hex width c.toNat ++ rest).drop width = rest := by
    rw [List.drop_append_of_le_length (by simp), List.drop_of_length_le (by simp),
      List.nil_append]
  rw [readCodePoint?, if_neg (by simp), digits, behind, readHex?_hex, Nat.mod_eq_of_lt fits]
  have valid : c.toNat.isValidChar := c.valid
  simp [valid]

theorem readUpTo?_escapeChar_append {mark : Char} (c : Char) (t : Text)
    (isMark : mark = apostrophe ∨ mark = quotationMark) :
    readUpTo? mark (escapeChar mark c ++ t) =
      (readUpTo? mark t).map fun read => (c :: read.1, read.2) := by
  have escaped {e : Text} {t : Text} (read : readEscape? (e ++ t) = some (c, t)) :
      readUpTo? mark (backslash :: e ++ t) =
        (readUpTo? mark t).map fun read => (c :: read.1, read.2) := by
    have other : ¬ backslash = mark := by rcases isMark with rfl | rfl <;> decide
    rw [List.cons_append, readUpTo?, if_neg other, if_pos rfl]
    split
    · simp_all
    · simp_all
  have letter (a : Char) (rest : Text) (plain : ¬ (a = apostrophe ∨ a = quotationMark ∨
      a = backslash ∨ a = 't' ∨ a = 'n' ∨ a = 'r')) :
      readEscape? (a :: rest) = if a = 'x' then readCodePoint? 2 rest
        else if a = 'u' then readCodePoint? 4 rest
        else if a = 'U' then readCodePoint? 8 rest else none := by
    simp only [not_or] at plain
    simp [readEscape?, plain]
  rw [escapeChar]
  split
  case isTrue same =>
    have : c = apostrophe ∨ c = quotationMark ∨ c = backslash := by
      rcases same with rfl | rfl
      · exact isMark.elim .inl (.inr ∘ .inl)
      · exact .inr (.inr rfl)
    exact escaped (by simp [readEscape?, this])
  split
  case isTrue same => subst same; exact escaped rfl
  split
  case isTrue same => subst same; exact escaped rfl
  split
  case isTrue same => subst same; exact escaped rfl
  split
  case isTrue =>
    rename_i plain _ _ _ _
    rw [List.singleton_append, readUpTo?, if_neg (fun h => plain (.inl h)),
      if_neg (fun h => plain (.inr h))]
  split
  case isTrue small =>
    refine escaped ?_
    rw [List.cons_append, letter _ _ (by decide), if_pos rfl, readCodePoint?_hex_append t small]
  split
  case isTrue small =>
    refine escaped ?_
    rw [List.cons_append, letter _ _ (by decide), if_neg (by decide), if_pos rfl,
      readCodePoint?_hex_append t small]
  case isFalse =>
    refine escaped ?_
    have small : c.toNat < Nat.pow 16 8 := by
      rcases c.valid with low | ⟨_, high⟩
      · exact Nat.lt_trans low (by decide)
      · exact Nat.lt_trans high (by decide)
    rw [List.cons_append, letter _ _ (by decide), if_neg (by decide), if_neg (by decide),
      if_pos rfl, readCodePoint?_hex_append t small]

/-- What is quoted is read back, whatever follows it. -/
theorem readQuoted?_quoted_append (s rest : Text) :
    readQuoted? (quoted s ++ rest) = some (s, rest) := by
  have isMark : delimiter s = apostrophe ∨ delimiter s = quotationMark := by
    rw [delimiter]; split <;> simp
  have body (s : Text) {mark : Char} (isMark : mark = apostrophe ∨ mark = quotationMark) :
      readUpTo? mark (s.flatMap (escapeChar mark) ++ mark :: rest) = some (s, rest) := by
    induction s with
    | nil => simp [readUpTo?]
    | cons c s ih =>
      rw [List.flatMap_cons, List.append_assoc, readUpTo?_escapeChar_append _ _ isMark, ih]
      rfl
  simp only [quoted, List.cons_append, List.append_assoc, List.nil_append, readQuoted?,
    if_pos isMark]
  exact body s isMark

end Calculator.Text
