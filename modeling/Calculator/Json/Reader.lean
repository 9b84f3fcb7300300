import Calculator.Json.Basic
import Calculator.Text.Hex
import Calculator.Text.Quoted

/-!
A reader for all of JSON: blanks may stand around every token, a number is kept as it is written,
and two escaped surrogates in a string stand for one character. A surrogate without its partner is
refused, and so is whatever stands behind the value.
-/

namespace Calculator.Json

open Text (backslash quotationMark readHex?)

/-- What has been read, and what is behind it, which is shorter than a bound. -/
structure Read (β : Type) (bound : Nat) where
  value : β
  rest : Text
  less : rest.length < bound

/-- Another value with the same rest, under a bound that is not less. -/
def Read.map {β γ : Type} {m n : Nat} (f : β → γ) (r : Read β m) (le : m ≤ n) : Read γ n :=
  ⟨f r.value, r.rest, Nat.lt_of_lt_of_le r.less le⟩

def isBlank (c : Char) : Bool :=
  c = ' ' || c = '\t' || c = '\n' || c = '\r'

/-- The text behind a mark, if it comes first, blanks apart. -/
def expect? (mark : Char) (t : Text) : Option (Read Unit t.length) :=
  match left : t.dropWhile isBlank with
  | [] => none
  | c :: rest =>
    if c = mark then
      some ⟨(), rest, by
        have := (List.dropWhile_suffix (l := t) isBlank).length_le
        rw [left, List.length_cons] at this
        omega⟩
    else none

/-- A character of a string, or a UTF-16 unit that is escaped. -/
inductive Piece where
  | char (c : Char)
  | unit (n : Nat)
deriving DecidableEq, Repr

/-- The character behind a backslash stands for this one. -/
def unescape? (c : Char) : Option Char :=
  if c = quotationMark ∨ c = backslash ∨ c = '/' then some c
  else if c = 'b' then some '\x08'
  else if c = 'f' then some '\x0c'
  else if c = 'n' then some '\n'
  else if c = 'r' then some '\r'
  else if c = 't' then some '\t'
  else none

/-- The pieces of a string up to the closing mark, and what is behind it. -/
def readPieces? : Text → Option (List Piece × Text)
  | [] => none
  | '\x22' :: t => some ([], t)
  | '\\' :: 'u' :: a :: b :: c :: d :: t =>
    (readHex? [a, b, c, d]).bind fun n =>
      (readPieces? t).map fun read => (.unit n :: read.1, read.2)
  | '\\' :: c :: t =>
    (unescape? c).bind fun d => (readPieces? t).map fun read => (.char d :: read.1, read.2)
  | c :: t =>
    if c.toNat < 0x20 ∨ c = backslash then none
    else (readPieces? t).map fun read => (.char c :: read.1, read.2)

/-- The character of two surrogates. -/
def pair? (high low : Nat) : Option Char :=
  if 0xD800 ≤ high ∧ high < 0xDC00 ∧ 0xDC00 ≤ low ∧ low < 0xE000 then
    some (Char.ofNat (0x10000 + (high - 0xD800) * 0x400 + (low - 0xDC00)))
  else none

/-- The text of the pieces, in which surrogates come in pairs. -/
def joinPieces? : List Piece → Option Text
  | [] => some []
  | .char c :: pieces => (joinPieces? pieces).map (c :: ·)
  | .unit n :: pieces =>
    if n.isValidChar then (joinPieces? pieces).map (Char.ofNat n :: ·)
    else match pieces with
      | .unit m :: pieces => (pair? n m).bind fun c => (joinPieces? pieces).map (c :: ·)
      | _ => none

/-- What is behind the closing mark is shorter. -/
theorem length_of_readPieces? {t : Text} {read : List Piece × Text}
    (found : readPieces? t = some read) : read.2.length < t.length := by
  fun_induction readPieces? t generalizing read with
  | case1 => cases found
  | case2 t => cases found; simp
  | case3 a b c d t ih =>
    obtain ⟨_, _, mapped⟩ := Option.bind_eq_some_iff.1 found
    obtain ⟨inner, here, rfl⟩ := Option.map_eq_some_iff.1 mapped
    have := ih here
    simp only [List.length_cons]; omega
  | case4 c t _ ih =>
    obtain ⟨_, _, mapped⟩ := Option.bind_eq_some_iff.1 found
    obtain ⟨inner, here, rfl⟩ := Option.map_eq_some_iff.1 mapped
    have := ih here
    simp only [List.length_cons]; omega
  | case5 => cases found
  | case6 c t _ _ _ _ ih =>
    obtain ⟨inner, here, rfl⟩ := Option.map_eq_some_iff.1 found
    have := ih here
    simp only [List.length_cons]; omega

/-- A string whose opening mark has been read. -/
def readString? (t : Text) : Option (Read Text t.length) :=
  match found : readPieces? t with
  | none => none
  | some (pieces, rest) =>
    (joinPieces? pieces).map fun text => ⟨text, rest, length_of_readPieces? found⟩

/-- What may stand in a number. -/
def isNumeric (c : Char) : Bool :=
  c.isDigit || c = '+' || c = '-' || c = '.' || c = 'e' || c = 'E'

/-- Nothing, or an exponent mark with an optional sign and digits. -/
def isExponent : Text → Bool
  | [] => true
  | mark :: t =>
    let digits := if t.head? = some '+' ∨ t.head? = some '-' then t.drop 1 else t
    (mark = 'e' || mark = 'E') && !digits.isEmpty && digits.all Char.isDigit

/-- An optional minus sign, digits of which a zero is the first only if it is alone, an optional
fraction with digits and an optional exponent. -/
def isNumber (t : Text) : Bool :=
  let t := if t.head? = some '-' then t.drop 1 else t
  let whole := t.takeWhile Char.isDigit
  let behind := t.dropWhile Char.isDigit
  !whole.isEmpty && (whole.head? != some '0' || whole.length = 1) &&
    if behind.head? = some '.' then
      !((behind.drop 1).takeWhile Char.isDigit).isEmpty &&
        isExponent ((behind.drop 1).dropWhile Char.isDigit)
    else isExponent behind

/-- A number, kept as it is written. -/
def readNumber? (t : Text) : Option (Read Json t.length) :=
  if number : isNumber (t.takeWhile isNumeric) then
    some ⟨.number (t.takeWhile isNumeric), t.dropWhile isNumeric, by
      cases t with
      | nil => simp [isNumber] at number
      | cons c t =>
        have := (List.dropWhile_suffix (l := t) isNumeric).length_le
        by_cases inside : isNumeric c = true
        · simp [inside]; omega
        · simp [inside, isNumber] at number⟩
  else none

/-- The text behind a word. -/
def readWord? (word : Text) (value : Json) (t : Text) : Option (Read Json t.length) :=
  if nonempty : word.isPrefixOf t ∧ word ≠ [] then
    some ⟨value, t.drop word.length, by
      have := (List.isPrefixOf_iff_prefix.1 nonempty.1).length_le
      have := List.length_pos_iff.2 nonempty.2
      rw [List.length_drop]
      omega⟩
  else none

/-- A string with its opening mark, blanks apart. -/
def readText? (t : Text) : Option (Read Text t.length) :=
  (expect? quotationMark t).bind fun opened =>
    (readString? opened.rest).map fun r => r.map id (Nat.le_of_lt opened.less)

/-- A value that is not made of values. -/
def readPlain? (t : Text) : Option (Read Json t.length) :=
  let tokens := t.dropWhile isBlank
  have le : tokens.length ≤ t.length := (List.dropWhile_suffix isBlank).length_le
  let value := readNumber? tokens <|> readWord? "null".toList .null tokens <|>
    readWord? "true".toList (.bool true) tokens <|> readWord? "false".toList (.bool false) tokens
  (readText? t).map (fun r => r.map .string (Nat.le_refl _)) <|> value.map fun r => r.map id le

mutual

/-- A value, blanks before it apart. -/
def readValue? (t : Text) : Option (Read Json t.length) :=
  match expect? '[' t with
  | some opened =>
    match expect? ']' opened.rest with
    | some closed => some (closed.map (fun _ => .array []) (Nat.le_of_lt opened.less))
    | none => (readItems? opened.rest).map fun r => r.map .array (Nat.le_of_lt opened.less)
  | none =>
    match expect? '\x7b' t with
    | some opened =>
      match expect? '\x7d' opened.rest with
      | some closed => some (closed.map (fun _ => .object []) (Nat.le_of_lt opened.less))
      | none => (readFields? opened.rest).map fun r => r.map .object (Nat.le_of_lt opened.less)
    | none => readPlain? t
termination_by (t.length, 0)
decreasing_by
  all_goals exact Prod.Lex.left _ _ opened.less

/-- The items of an array up to the closing bracket. -/
def readItems? (t : Text) : Option (Read (List Json) t.length) := do
  let item ← readValue? t
  match expect? ',' item.rest with
  | some comma =>
    let r ← readItems? comma.rest
    return r.map (item.value :: ·) (Nat.le_of_lt (Nat.lt_trans comma.less item.less))
  | none =>
    let closed ← expect? ']' item.rest
    return closed.map (fun _ => [item.value]) (Nat.le_of_lt item.less)
termination_by (t.length, 1)
decreasing_by
  · exact Prod.Lex.right _ (by decide)
  · exact Prod.Lex.left _ _ (Nat.lt_trans comma.less item.less)

/-- The fields of an object up to the closing brace. -/
def readFields? (t : Text) : Option (Read (List (Text × Json)) t.length) := do
  let name ← readText? t
  let colon ← expect? ':' name.rest
  let value ← readValue? colon.rest
  have less := Nat.lt_trans value.less (Nat.lt_trans colon.less name.less)
  match expect? ',' value.rest with
  | some comma =>
    let r ← readFields? comma.rest
    return r.map ((name.value, value.value) :: ·) (Nat.le_of_lt (Nat.lt_trans comma.less less))
  | none =>
    let closed ← expect? '\x7d' value.rest
    return closed.map (fun _ => [(name.value, value.value)]) (Nat.le_of_lt less)
termination_by (t.length, 0)
decreasing_by
  · exact Prod.Lex.left _ _ (Nat.lt_trans colon.less name.less)
  · exact Prod.Lex.left _ _ (Nat.lt_trans comma.less less)

end

/-- The value that a text stands for. -/
def read? (t : Text) : Option Json :=
  (readValue? t).bind fun r => if r.rest.all isBlank then some r.value else none

end Calculator.Json
