import Calculator.Json.Printer
import Calculator.Proofs.JsonNumbers

/-!
What is written as JSON is read back, whatever the alphabet. What is read leaves exactly what was
behind it, so that each part of a text is read on its own (`Gives`). A number needs something behind
it that cannot be part of it.
-/

namespace Calculator.Json

open Text (backslash quotationMark hex readHex? takeWhile_run dropWhile_run)

variable {alphabet : Alphabet} {t u rest tail more : Text} {c : Char}

/-- The text stands for the character inside a string. -/
def Spells (e : Text) (c : Char) : Prop :=
  ∃ pieces, (∀ t, readPieces? (e ++ t) =
    (readPieces? t).map fun read => (pieces ++ read.1, read.2)) ∧
    ∀ more, joinPieces? (pieces ++ more) = (joinPieces? more).map (c :: ·)

theorem spells_self (noMark : c ≠ quotationMark) (noEscape : c ≠ backslash)
    (noControl : ¬ c.toNat < 0x20) : Spells [c] c := by
  refine ⟨[.char c], fun t => ?_, fun more => rfl⟩
  rw [List.singleton_append, readPieces?, if_neg (by simp [noControl, noEscape])]
  · rfl
  · exact noMark
  · exact fun _ _ _ _ _ escape _ => noEscape escape
  · exact fun _ _ escape _ => noEscape escape

theorem spells_escaped {a : Char} (stands : unescape? a = some c) : Spells [backslash, a] c := by
  refine ⟨[.char c], fun t => ?_, fun more => rfl⟩
  have other : a ≠ 'u' := by
    rintro rfl
    cases (show unescape? 'u' = none by decide).symm.trans stands
  rw [List.cons_append, List.cons_append, List.nil_append, backslash, readPieces?]
  · rw [stands]; rfl
  · exact fun _ _ _ _ _ letter _ => other letter

theorem readPieces?_escapeUnit_append {n : Nat} (small : n < 0x10000) (t : Text) :
    readPieces? (escapeUnit n ++ t) =
      (readPieces? t).map fun read => (.unit n :: read.1, read.2) := by
  have digits := Text.readHex?_hex 4 n
  obtain ⟨a, b, c, d, four⟩ : ∃ a b c d, hex 4 n = [a, b, c, d] := ⟨_, _, _, _, rfl⟩
  rw [four, Nat.mod_eq_of_lt small] at digits
  simp [escapeUnit, four, backslash, readPieces?, digits]

theorem spells_escapeUnit (small : c.toNat < 0x10000) : Spells (escapeUnit c.toNat) c := by
  refine ⟨[.unit c.toNat], readPieces?_escapeUnit_append small, fun more => ?_⟩
  have valid : c.toNat.isValidChar := c.valid
  rw [List.singleton_append, joinPieces?.eq_def]
  simp [valid]

/-- Two surrogates stand for one character, and the first of them for none. -/
theorem spells_pair {high low : Nat} (pair : pair? high low = some c) :
    Spells (escapeUnit high ++ escapeUnit low) c := by
  have range : 0xD800 ≤ high ∧ high < 0xDC00 ∧ 0xDC00 ≤ low ∧ low < 0xE000 := by
    rw [pair?] at pair
    split at pair
    case isTrue range => exact range
    case isFalse => cases pair
  have alone : ¬ high.isValidChar := by
    simp only [Nat.isValidChar]
    omega
  refine ⟨[.unit high, .unit low], fun t => ?_, fun more => ?_⟩
  · rw [List.append_assoc, readPieces?_escapeUnit_append (by omega),
      readPieces?_escapeUnit_append (by omega), Option.map_map]
    rfl
  · simp [joinPieces?, alone, pair]

theorem pair?_surrogates (large : 0x10000 ≤ c.toNat) :
    pair? (0xD800 + (c.toNat - 0x10000) / 0x400) (0xDC00 + (c.toNat - 0x10000) % 0x400) =
      some c := by
  have bound : c.toNat < 0x110000 := by
    rcases c.valid with low | ⟨_, high⟩
    · exact Nat.lt_trans low (by decide)
    · exact high
  have whole : 0x10000 + (0xD800 + (c.toNat - 0x10000) / 0x400 - 0xD800) * 0x400 +
      (0xDC00 + (c.toNat - 0x10000) % 0x400 - 0xDC00) = c.toNat := by omega
  rw [pair?, if_pos (by omega), whole, Char.ofNat_toNat]

/-- One unit stands for the character, or two surrogates do. -/
theorem spells_escapeUnits (c : Char) : Spells (escapeUnits c.toNat) c := by
  rw [escapeUnits]
  split
  case isTrue small => exact spells_escapeUnit small
  case isFalse large => exact spells_pair (pair?_surrogates (Nat.not_lt.1 large))

/-- Whatever the alphabet, what is written for a character stands for it. -/
theorem spells_escapeChar (alphabet : Alphabet) (c : Char) : Spells (escapeChar alphabet c) c := by
  rw [escapeChar]
  split
  case isTrue mark => subst mark; exact spells_escaped (by decide)
  split
  case isTrue escape => subst escape; exact spells_escaped (by decide)
  split
  case isTrue lineFeed => subst lineFeed; exact spells_escaped (by decide)
  split
  case isTrue carriage => subst carriage; exact spells_escaped (by decide)
  split
  case isTrue tab => subst tab; exact spells_escaped (by decide)
  split
  case isTrue formFeed => subst formFeed; exact spells_escaped (by decide)
  split
  case isTrue backspace => subst backspace; exact spells_escaped (by decide)
  split
  case isTrue control => exact spells_escapeUnit (by omega)
  split
  case isTrue noMark noEscape _ _ _ _ _ noControl _ => exact spells_self noMark noEscape noControl
  case isFalse => exact spells_escapeUnits c

/-- What is written for a text is read as pieces that join to the text. -/
theorem exists_pieces (alphabet : Alphabet) (s rest : Text) :
    ∃ pieces, readPieces? (s.flatMap (escapeChar alphabet) ++ quotationMark :: rest) =
      some (pieces, rest) ∧ joinPieces? pieces = some s := by
  induction s with
  | nil => exact ⟨[], by simp [quotationMark, readPieces?], rfl⟩
  | cons c s ih =>
    obtain ⟨later, read, joined⟩ := ih
    obtain ⟨pieces, spelled, joins⟩ := spells_escapeChar alphabet c
    refine ⟨pieces ++ later, ?_, ?_⟩
    · rw [List.flatMap_cons, List.append_assoc, spelled, read]
      rfl
    · rw [joins, joined]
      rfl

/-! ## What a reader gives -/

/-- The reader gives the value and leaves the rest. -/
def Gives {β : Type} {bound : Nat} (read : Option (Read β bound)) (value : β) (rest : Text) :
    Prop :=
  ∃ r, read = some r ∧ r.value = value ∧ r.rest = rest

section

variable {β : Type} {bound : Nat} {read other : Option (Read β bound)} {value : β}

theorem Gives.orElse_left (gives : Gives read value rest) : Gives (read <|> other) value rest := by
  obtain ⟨r, found, same⟩ := gives
  exact ⟨r, by rw [found]; rfl, same⟩

theorem Gives.orElse_right (nothing : read = none) (gives : Gives other value rest) :
    Gives (read <|> other) value rest := by
  obtain ⟨r, found, same⟩ := gives
  exact ⟨r, by rw [nothing, found]; rfl, same⟩

end

/-- A mark is read with the blanks before it. -/
theorem gives_expect? (here : t.dropWhile isBlank = c :: rest) : Gives (expect? c t) () rest := by
  rw [expect?]
  split
  case h_1 nothing => rw [here] at nothing; cases nothing
  case h_2 a u found =>
    obtain ⟨rfl, rfl⟩ := List.cons.inj (here.symm.trans found)
    exact ⟨_, if_pos rfl, rfl, rfl⟩

theorem expect?_eq_none {mark : Char} (other : (t.dropWhile isBlank).head? ≠ some mark) :
    expect? mark t = none := by
  rw [expect?]
  split
  case h_1 => rfl
  case h_2 a u found =>
    rw [found] at other
    exact if_neg fun same => other (congrArg some same)

theorem expect?_eq_none_of_cons {mark : Char} (here : t.dropWhile isBlank = c :: rest)
    (other : c ≠ mark) : expect? mark t = none :=
  expect?_eq_none (by rw [here]; exact fun same => other (Option.some.inj same))

/-- A string that is written is read as its text. -/
theorem gives_readText? {s : Text}
    (here : t.dropWhile isBlank = writeString alphabet s ++ rest) :
    Gives (readText? t) s rest := by
  obtain ⟨pieces, read, joined⟩ := exists_pieces alphabet s rest
  have opens : t.dropWhile isBlank =
      quotationMark :: (s.flatMap (escapeChar alphabet) ++ quotationMark :: rest) := by
    rw [here]; simp [writeString]
  obtain ⟨opened, found, -, left⟩ := gives_expect? opens
  have body : Gives (readString? opened.rest) s rest := by
    rw [readString?]
    split
    case h_1 nothing => rw [left, read] at nothing; cases nothing
    case h_2 here =>
      rw [left, read] at here
      cases here
      rw [joined]
      exact ⟨_, rfl, rfl, rfl⟩
  obtain ⟨r, string, value, behind⟩ := body
  refine ⟨r.map id (Nat.le_of_lt opened.less), ?_, value, behind⟩
  rw [readText?, found, Option.bind_some, string]
  rfl

/-- A number that stands before the text ends there. -/
def Delimits (t : Text) : Prop := ∀ c, t.head? = some c → isNumeric c = false

theorem delimits_cons (other : isNumeric c = false) (t : Text) : Delimits (c :: t) := by
  rintro a ⟨⟩
  exact other

/-- A number is read whole, because what stands behind it is none of it. -/
theorem gives_readNumber? {number : Text} (isNumber : isNumber number = true)
    (delimits : Delimits rest) : Gives (readNumber? (number ++ rest)) (.number number) rest := by
  have all := isNumeric_of_isNumber isNumber
  have taken := takeWhile_run all delimits
  have left := dropWhile_run all delimits
  rw [readNumber?, dif_pos (by rw [taken]; exact isNumber)]
  exact ⟨_, rfl, congrArg Json.number taken, left⟩

theorem readNumber?_eq_none (delimits : Delimits t) : readNumber? t = none := by
  have nothing : t.takeWhile isNumeric = [] := by
    simpa using takeWhile_run (s := []) (by simp) delimits
  rw [readNumber?, dif_neg (by rw [nothing]; decide)]

theorem gives_readWord? {word : Text} (nonempty : word ≠ []) (value : Json) (rest : Text) :
    Gives (readWord? word value (word ++ rest)) value rest :=
  ⟨_, dif_pos ⟨by simp, nonempty⟩, rfl, List.drop_left⟩

theorem readWord?_eq_none {word : Text} (value : Json) (other : word.isPrefixOf t = false) :
    readWord? word value t = none :=
  dif_neg (by simp [other])

theorem readValue?_eq_readPlain? (here : t.dropWhile isBlank = c :: rest) (noArray : c ≠ '[')
    (noObject : c ≠ '\x7b') : readValue? t = readPlain? t := by
  rw [readValue?, expect?_eq_none_of_cons here noArray, expect?_eq_none_of_cons here noObject]

theorem gives_string {s : Text} (here : t.dropWhile isBlank = writeString alphabet s ++ rest) :
    Gives (readValue? t) (.string s) rest := by
  obtain ⟨r, string, value, behind⟩ := gives_readText? here
  refine ⟨r.map .string (Nat.le_refl _), ?_, congrArg Json.string value, behind⟩
  rw [writeString, List.cons_append, List.cons_append] at here
  rw [readValue?_eq_readPlain? here (by decide) (by decide), readPlain?, string]
  rfl

/-- What is neither an array nor an object nor a string is a number or a word. -/
theorem gives_plain {j : Json} (here : t.dropWhile isBlank = c :: u) (noArray : c ≠ '[')
    (noObject : c ≠ '\x7b') (noString : c ≠ quotationMark)
    (plain : Gives (readNumber? (t.dropWhile isBlank) <|>
      readWord? "null".toList .null (t.dropWhile isBlank) <|>
      readWord? "true".toList (.bool true) (t.dropWhile isBlank) <|>
      readWord? "false".toList (.bool false) (t.dropWhile isBlank)) j rest) :
    Gives (readValue? t) j rest := by
  obtain ⟨r, found, value, left⟩ := plain
  have noText : readText? t = none := by
    rw [readText?, expect?_eq_none_of_cons here noString]
    rfl
  refine ⟨r.map id (List.dropWhile_suffix isBlank).length_le, ?_, value, left⟩
  rw [readValue?_eq_readPlain? here noArray noObject, readPlain?]
  simp only [noText, found, Option.map_none, Option.map_some]
  rfl

theorem gives_number {text : Text} (number : isNumber text = true) (delimits : Delimits rest)
    (here : t.dropWhile isBlank = text ++ rest) : Gives (readValue? t) (.number text) rest := by
  obtain ⟨c, u, rfl⟩ : ∃ c u, text = c :: u := by
    cases text with
    | nil => cases number
    | cons c u => exact ⟨c, u, rfl⟩
  have numeric := isNumeric_of_isNumber number c List.mem_cons_self
  refine gives_plain here ?_ ?_ ?_ ?_
  iterate 3 (rintro rfl; revert numeric; decide)
  rw [here]
  exact .orElse_left (gives_readNumber? number delimits)

theorem gives_word {word : Text} {value : Json}
    (isWord : (word, value) ∈ [("null".toList, null), ("true".toList, bool true),
      ("false".toList, bool false)])
    (here : t.dropWhile isBlank = word ++ rest) : Gives (readValue? t) value rest := by
  simp only [List.mem_cons, Prod.mk.injEq, List.not_mem_nil, or_false] at isWord
  rcases isWord with ⟨rfl, rfl⟩ | ⟨rfl, rfl⟩ | ⟨rfl, rfl⟩
  all_goals
    refine gives_plain here (by decide) (by decide) (by decide) ?_
    rw [here]
    refine .orElse_right (readNumber?_eq_none (delimits_cons (by decide) _)) ?_
  case inl => exact .orElse_left (gives_readWord? (by simp) _ _)
  all_goals refine .orElse_right (readWord?_eq_none _ rfl) ?_
  case inr.inl => exact .orElse_left (gives_readWord? (by simp) _ _)
  case inr.inr =>
    exact .orElse_right (readWord?_eq_none _ rfl) (gives_readWord? (by simp) _ _)

/-! ## Arrays and objects -/

/-- An item is the last one, or a comma and others are behind it. -/
theorem gives_item {item : Json} {items : List Json} (first : Gives (readValue? t) item tail)
    (behind : (items = [] ∧ tail.dropWhile isBlank = ']' :: rest) ∨
      ∃ more, tail.dropWhile isBlank = ',' :: more ∧ Gives (readItems? more) items rest) :
    Gives (readItems? t) (item :: items) rest := by
  obtain ⟨r, found, rfl, rfl⟩ := first
  rw [readItems?, found]
  simp only [Option.bind_eq_bind, Option.bind_some]
  rcases behind with ⟨rfl, closes⟩ | ⟨more, comma, read⟩
  · obtain ⟨closed, bracket, -, rfl⟩ := gives_expect? closes
    rw [expect?_eq_none_of_cons closes (by decide), bracket]
    exact ⟨_, rfl, rfl, rfl⟩
  · obtain ⟨opened, mark, -, rfl⟩ := gives_expect? comma
    obtain ⟨s, others, rfl, rfl⟩ := read
    rw [mark]
    simp only [others, Option.bind_some]
    exact ⟨_, rfl, rfl, rfl⟩

theorem gives_field {name behind : Text} {value : Json} {fields : List (Text × Json)}
    (first : Gives (readText? t) name tail) (colon : tail.dropWhile isBlank = ':' :: more)
    (second : Gives (readValue? more) value behind)
    (next : (fields = [] ∧ behind.dropWhile isBlank = '\x7d' :: rest) ∨
      ∃ later, behind.dropWhile isBlank = ',' :: later ∧ Gives (readFields? later) fields rest) :
    Gives (readFields? t) ((name, value) :: fields) rest := by
  obtain ⟨r, found, rfl, rfl⟩ := first
  obtain ⟨opened, mark, -, rfl⟩ := gives_expect? colon
  obtain ⟨s, held, rfl, rfl⟩ := second
  rw [readFields?, found]
  simp only [Option.bind_eq_bind, Option.bind_some]
  rw [mark]
  simp only [Option.bind_some, held]
  rcases next with ⟨rfl, closes⟩ | ⟨later, comma, read⟩
  · obtain ⟨closed, brace, -, rfl⟩ := gives_expect? closes
    rw [expect?_eq_none_of_cons closes (by decide), brace]
    exact ⟨_, rfl, rfl, rfl⟩
  · obtain ⟨next, separator, -, rfl⟩ := gives_expect? comma
    obtain ⟨v, others, rfl, rfl⟩ := read
    rw [separator]
    simp only [others, Option.bind_some]
    exact ⟨_, rfl, rfl, rfl⟩

/-- An array is empty, or its items are read. -/
theorem gives_array {items : List Json} (opens : t.dropWhile isBlank = '[' :: u)
    (body : (items = [] ∧ u.dropWhile isBlank = ']' :: rest) ∨
      ((u.dropWhile isBlank).head? ≠ some ']' ∧ Gives (readItems? u) items rest)) :
    Gives (readValue? t) (.array items) rest := by
  obtain ⟨opened, bracket, -, rfl⟩ := gives_expect? opens
  rw [readValue?, bracket]
  rcases body with ⟨rfl, closes⟩ | ⟨other, read⟩
  · obtain ⟨closed, found, -, rfl⟩ := gives_expect? closes
    simp only [found]
    exact ⟨_, rfl, rfl, rfl⟩
  · obtain ⟨r, found, rfl, rfl⟩ := read
    simp only [expect?_eq_none other, found, Option.map_some]
    exact ⟨_, rfl, rfl, rfl⟩

theorem gives_object {fields : List (Text × Json)} (opens : t.dropWhile isBlank = '\x7b' :: u)
    (body : (fields = [] ∧ u.dropWhile isBlank = '\x7d' :: rest) ∨
      ((u.dropWhile isBlank).head? ≠ some '\x7d' ∧ Gives (readFields? u) fields rest)) :
    Gives (readValue? t) (.object fields) rest := by
  obtain ⟨opened, brace, -, rfl⟩ := gives_expect? opens
  rw [readValue?, expect?_eq_none_of_cons opens (by decide), brace]
  rcases body with ⟨rfl, closes⟩ | ⟨other, read⟩
  · obtain ⟨closed, found, -, rfl⟩ := gives_expect? closes
    simp only [found]
    exact ⟨_, rfl, rfl, rfl⟩
  · obtain ⟨r, found, rfl, rfl⟩ := read
    simp only [expect?_eq_none other, found, Option.map_some]
    exact ⟨_, rfl, rfl, rfl⟩

/-! ## Values that are written -/

/-- Every number in the value is one. -/
inductive WellFormed : Json → Prop
  | null : WellFormed null
  | bool (value : Bool) : WellFormed (bool value)
  | number {text : Text} (isNumber : isNumber text = true) : WellFormed (number text)
  | string (text : Text) : WellFormed (string text)
  | array {items : List Json} (all : ∀ item ∈ items, WellFormed item) : WellFormed (array items)
  | object {fields : List (Text × Json)} (all : ∀ field ∈ fields, WellFormed field.2) :
      WellFormed (object fields)

/-- What is written for the value at any depth is read back, blanks before it apart. -/
def ReadsBack (alphabet : Alphabet) (j : Json) : Prop :=
  ∀ (depth : Nat) {t rest : Text}, t.dropWhile isBlank = writeAt alphabet depth j ++ rest →
    Delimits rest → Gives (readValue? t) j rest

theorem isBlank_of_isNumeric (numeric : isNumeric c = true) : isBlank c = false := by
  refine Bool.eq_false_iff.2 fun blank => ?_
  simp only [isBlank, Bool.or_eq_true, decide_eq_true_eq] at blank
  rcases blank with ((rfl | rfl) | rfl) | rfl <;> revert numeric <;> decide

/-- A value that is written begins with no blank, and not with the bracket that closes an array. -/
theorem exists_head_writeAt (alphabet : Alphabet) {j : Json} (wellFormed : j.WellFormed)
    (depth : Nat) :
    ∃ c u, writeAt alphabet depth j = c :: u ∧ isBlank c = false ∧ c ≠ ']' := by
  cases wellFormed with
  | null => exact ⟨_, _, rfl, by decide, by decide⟩
  | bool value => cases value <;> exact ⟨_, _, rfl, by decide, by decide⟩
  | @number text number =>
    cases text with
    | nil => cases number
    | cons c u =>
      have numeric := isNumeric_of_isNumber number c List.mem_cons_self
      exact ⟨c, u, rfl, isBlank_of_isNumeric numeric, by rintro rfl; revert numeric; decide⟩
  | string text => exact ⟨_, _, rfl, by decide, by decide⟩
  | @array items all =>
    rw [writeAt]
    split <;> exact ⟨_, _, rfl, by decide, by decide⟩
  | @object fields all =>
    rw [writeAt]
    split <;> exact ⟨_, _, rfl, by decide, by decide⟩

theorem dropWhile_newLine_append (depth : Nat) (t : Text) :
    (newLine depth ++ t).dropWhile isBlank = t.dropWhile isBlank := by
  refine List.dropWhile_append_of_pos fun c member => ?_
  rcases List.mem_cons.1 member with rfl | space
  · decide
  · rw [List.eq_of_mem_replicate space]; decide

theorem dropWhile_writeString_append (s t : Text) :
    (writeString alphabet s ++ t).dropWhile isBlank = writeString alphabet s ++ t :=
  List.dropWhile_cons_of_neg (by decide)

theorem dropWhile_writeAt_append (alphabet : Alphabet) {j : Json} (wellFormed : j.WellFormed)
    (depth : Nat) (t : Text) :
    (writeAt alphabet depth j ++ t).dropWhile isBlank = writeAt alphabet depth j ++ t := by
  obtain ⟨c, u, written, solid, _⟩ := exists_head_writeAt alphabet wellFormed depth
  rw [written, List.cons_append, List.dropWhile_cons_of_neg (by simp [solid])]

/-- By induction on the items, each of which is read back where it stands. -/
theorem gives_readItems? {items : List Json} (nonempty : items ≠ [])
    (all : ∀ item ∈ items, item.WellFormed ∧ ReadsBack alphabet item) (depth : Nat)
    (closes : tail.dropWhile isBlank = ']' :: rest) (delimits : Delimits tail) :
    Gives (readItems? (writeItems alphabet depth items ++ tail)) items rest := by
  induction items with
  | nil => exact absurd rfl nonempty
  | cons item items ih =>
    obtain ⟨wellFormed, back⟩ := all item List.mem_cons_self
    -- The last item has the bracket behind it, every other one a comma.
    cases items with
    | nil =>
      have here : (writeItems alphabet depth [item] ++ tail).dropWhile isBlank =
          writeAt alphabet depth item ++ tail := by
        simp [writeItems, dropWhile_newLine_append, dropWhile_writeAt_append alphabet wellFormed]
      exact gives_item (back depth here delimits) (.inl ⟨rfl, closes⟩)
    | cons next items =>
      have later := ih (by simp) fun item member => all item (.tail _ member)
      have here : (writeItems alphabet depth (item :: next :: items) ++ tail).dropWhile isBlank =
          writeAt alphabet depth item ++
            ',' :: (writeItems alphabet depth (next :: items) ++ tail) := by
        rw [writeItems]
        simp [dropWhile_newLine_append, dropWhile_writeAt_append alphabet wellFormed]
      exact gives_item (back depth here (delimits_cons (by decide) _))
        (.inr ⟨_, List.dropWhile_cons_of_neg (by decide), later⟩)

theorem gives_readFields? {fields : List (Text × Json)} (nonempty : fields ≠ [])
    (all : ∀ field ∈ fields, field.2.WellFormed ∧ ReadsBack alphabet field.2) (depth : Nat)
    (closes : tail.dropWhile isBlank = '\x7d' :: rest) (delimits : Delimits tail) :
    Gives (readFields? (writeFields alphabet depth fields ++ tail)) fields rest := by
  induction fields with
  | nil => exact absurd rfl nonempty
  | cons field fields ih =>
    obtain ⟨name, value⟩ := field
    obtain ⟨wellFormed, back⟩ := all (name, value) List.mem_cons_self
    have colon (t : Text) : (':' :: ' ' :: (writeAt alphabet depth value ++ t)).dropWhile isBlank =
        ':' :: ' ' :: (writeAt alphabet depth value ++ t) :=
      List.dropWhile_cons_of_neg (by decide)
    have held (t : Text) : (' ' :: (writeAt alphabet depth value ++ t)).dropWhile isBlank =
        writeAt alphabet depth value ++ t := by
      rw [List.dropWhile_cons_of_pos (by decide), dropWhile_writeAt_append alphabet wellFormed]
    cases fields with
    | nil =>
      have here : (writeFields alphabet depth [(name, value)] ++ tail).dropWhile isBlank =
          writeString alphabet name ++ ':' :: ' ' :: (writeAt alphabet depth value ++ tail) := by
        simp [writeFields, dropWhile_newLine_append, dropWhile_writeString_append]
      exact gives_field (gives_readText? here) (colon tail) (back depth (held tail) delimits)
        (.inl ⟨rfl, closes⟩)
    | cons next fields =>
      have later := ih (by simp) fun field member => all field (.tail _ member)
      have here :
          (writeFields alphabet depth ((name, value) :: next :: fields) ++ tail).dropWhile isBlank =
            writeString alphabet name ++ ':' :: ' ' :: (writeAt alphabet depth value ++
              ',' :: (writeFields alphabet depth (next :: fields) ++ tail)) := by
        rw [writeFields]
        simp [dropWhile_newLine_append, dropWhile_writeString_append]
      exact gives_field (gives_readText? here) (colon _)
        (back depth (held _) (delimits_cons (by decide) _))
        (.inr ⟨_, List.dropWhile_cons_of_neg (by decide), later⟩)

theorem dropWhile_newLine_cons (solid : isBlank c = false) (depth : Nat) (t : Text) :
    (newLine depth ++ c :: t).dropWhile isBlank = c :: t := by
  rw [dropWhile_newLine_append, List.dropWhile_cons_of_neg (by simp [solid])]

theorem readsBack_array {items : List Json}
    (all : ∀ item ∈ items, item.WellFormed ∧ ReadsBack alphabet item) :
    ReadsBack alphabet (.array items) := by
  intro depth t rest here delimits
  cases items with
  | nil => exact gives_array here (.inl ⟨rfl, List.dropWhile_cons_of_neg (by decide)⟩)
  | cons item items =>
    obtain ⟨c, u, written, solid, other⟩ :=
      exists_head_writeAt alphabet (all item List.mem_cons_self).1 (depth + 1)
    have read := gives_readItems? (List.cons_ne_nil item items) all (depth + 1)
      (dropWhile_newLine_cons (c := ']') (by decide) depth rest) (delimits_cons (by decide) _)
    refine gives_array ?_ (.inr ⟨?_, read⟩)
    · rw [here, writeAt]
      simp
    · rw [writeItems, written]
      simpa [dropWhile_newLine_append, solid] using other

theorem readsBack_object {fields : List (Text × Json)}
    (all : ∀ field ∈ fields, field.2.WellFormed ∧ ReadsBack alphabet field.2) :
    ReadsBack alphabet (.object fields) := by
  intro depth t rest here delimits
  cases fields with
  | nil => exact gives_object here (.inl ⟨rfl, List.dropWhile_cons_of_neg (by decide)⟩)
  | cons field fields =>
    have read := gives_readFields? (List.cons_ne_nil field fields) all (depth + 1)
      (dropWhile_newLine_cons (c := '\x7d') (by decide) depth rest) (delimits_cons (by decide) _)
    refine gives_object ?_ (.inr ⟨?_, read⟩)
    · rw [here, writeAt]
      simp
    · rw [writeFields]
      simp [dropWhile_newLine_append, writeString, isBlank, quotationMark]

/-- By induction on the value. -/
theorem readsBack {j : Json} (wellFormed : j.WellFormed) : ReadsBack alphabet j := by
  induction wellFormed with
  | null => exact fun _ _ _ here _ => gives_word (by simp [writeAt]) here
  | bool value =>
    intro depth t rest here _
    cases value <;> exact gives_word (by simp [writeAt]) here
  | number number => exact fun _ _ _ here delimits => gives_number number delimits here
  | string text => exact fun _ _ _ here _ => gives_string here
  | array all ih => exact readsBack_array fun item member => ⟨all item member, ih item member⟩
  | object all ih =>
    exact readsBack_object fun field member => ⟨all field member, ih field member⟩

/-- The text of a value stands for the value and for no other, blanks behind it apart. -/
theorem read?_write_append {j : Json} (wellFormed : j.WellFormed) {blanks : Text}
    (blank : ∀ c ∈ blanks, isBlank c = true) : read? (j.write alphabet ++ blanks) = some j := by
  have delimits : Delimits blanks := by
    intro c first
    refine Bool.eq_false_iff.2 fun numeric => ?_
    have := blank c (List.mem_of_mem_head? first)
    rw [isBlank_of_isNumeric numeric] at this
    cases this
  have whole := dropWhile_writeAt_append alphabet wellFormed 0 blanks
  obtain ⟨r, found, value, left⟩ := readsBack wellFormed 0 whole delimits
  rw [read?, write, found, Option.bind_some, left, if_pos (List.all_eq_true.2 blank), value]

/-! ## The ASCII form -/

theorem ascii_of_mem_hex {width n : Nat} (member : c ∈ hex width n) : c.toNat < 128 := by
  induction width generalizing n with
  | zero => cases member
  | succ width ih =>
    rw [hex, List.mem_append, List.mem_singleton] at member
    rcases member with inside | rfl
    · exact ih inside
    · have all : ∀ m : Fin 16, (Nat.digitChar m).toNat < 128 := by decide
      exact all ⟨n % 16, Nat.mod_lt n (by decide)⟩

theorem ascii_of_mem_escapeUnit {n : Nat} (member : c ∈ escapeUnit n) : c.toNat < 128 := by
  simp only [escapeUnit, List.mem_cons] at member
  rcases member with rfl | rfl | digit
  · decide
  · decide
  · exact ascii_of_mem_hex digit

theorem ascii_of_mem_escapeUnits {n : Nat} (member : c ∈ escapeUnits n) : c.toNat < 128 := by
  rw [escapeUnits] at member
  split at member
  · exact ascii_of_mem_escapeUnit member
  · exact (List.mem_append.1 member).elim ascii_of_mem_escapeUnit ascii_of_mem_escapeUnit

/-- What is beyond ASCII is escaped. -/
theorem ascii_of_mem_escapeChar {a : Char} (member : c ∈ escapeChar .ascii a) : c.toNat < 128 := by
  have escaped {b : Char} (ascii : b.toNat < 128) (member : c ∈ [backslash, b]) :
      c.toNat < 128 := by
    rcases List.mem_pair.1 member with rfl | rfl
    · decide
    · exact ascii
  rw [escapeChar] at member
  iterate 7
    split at member
    · exact escaped (by decide) member
  split at member
  · exact ascii_of_mem_escapeUnit member
  split at member
  case isTrue plain =>
    rw [List.mem_singleton.1 member]
    rcases plain with low | other
    · omega
    · cases other
  case isFalse => exact ascii_of_mem_escapeUnits member

theorem ascii_of_mem_writeString {s : Text} (member : c ∈ writeString .ascii s) :
    c.toNat < 128 := by
  simp only [writeString, List.mem_append, List.mem_cons, List.mem_flatMap, List.not_mem_nil,
    or_false] at member
  rcases member with (rfl | ⟨a, _, inside⟩) | rfl
  · decide
  · exact ascii_of_mem_escapeChar inside
  · decide

theorem ascii_of_mem_newLine {depth : Nat} (member : c ∈ newLine depth) : c.toNat < 128 := by
  rcases List.mem_cons.1 member with rfl | space
  · decide
  · rw [List.eq_of_mem_replicate space]; decide

theorem ascii_of_mem_comma {last : Bool} (member : c ∈ if last then [] else [',']) :
    c.toNat < 128 := by
  cases last with
  | false => rw [List.mem_singleton.1 member]; decide
  | true => cases member

theorem ascii_of_mem_writeItems {items : List Json} {depth : Nat}
    (all : ∀ item ∈ items, ∀ c ∈ writeAt .ascii depth item, c.toNat < 128)
    (member : c ∈ writeItems .ascii depth items) : c.toNat < 128 := by
  induction items with
  | nil => cases member
  | cons item items ih =>
    simp only [writeItems, List.mem_append] at member
    rcases member with ((inside | inside) | inside) | inside
    · exact ascii_of_mem_newLine inside
    · exact all item List.mem_cons_self c inside
    · exact ascii_of_mem_comma inside
    · exact ih (fun item inside => all item (.tail _ inside)) inside

theorem ascii_of_isNumeric (numeric : isNumeric c = true) : c.toNat < 128 := by
  simp only [isNumeric, Bool.or_eq_true, decide_eq_true_eq, Char.isDigit_iff_toNat] at numeric
  rcases numeric with ((((⟨_, high⟩ | rfl) | rfl) | rfl) | rfl) | rfl
  · exact Nat.lt_of_le_of_lt high (by decide)
  all_goals decide

theorem ascii_of_mem_writeFields {fields : List (Text × Json)} {depth : Nat}
    (all : ∀ field ∈ fields, ∀ c ∈ writeAt .ascii depth field.2, c.toNat < 128)
    (member : c ∈ writeFields .ascii depth fields) : c.toNat < 128 := by
  induction fields with
  | nil => cases member
  | cons field fields ih =>
    obtain ⟨name, value⟩ := field
    simp only [writeFields, List.mem_append] at member
    rcases member with ((((inside | inside) | inside) | inside) | inside) | inside
    · exact ascii_of_mem_newLine inside
    · exact ascii_of_mem_writeString inside
    · rcases List.mem_pair.1 inside with rfl | rfl <;> decide
    · exact all (name, value) List.mem_cons_self c inside
    · exact ascii_of_mem_comma inside
    · exact ih (fun field inside => all field (.tail _ inside)) inside

theorem ascii_of_mem_enclosed {first last : Char} {body : Text} {depth : Nat}
    (firstAscii : first.toNat < 128) (lastAscii : last.toNat < 128)
    (inside : ∀ c ∈ body, c.toNat < 128) (member : c ∈ first :: body ++ newLine depth ++ [last]) :
    c.toNat < 128 := by
  simp only [List.mem_append, List.mem_cons, List.not_mem_nil, or_false] at member
  rcases member with ((rfl | member) | member) | rfl
  · exact firstAscii
  · exact inside c member
  · exact ascii_of_mem_newLine member
  · exact lastAscii

/-- In the ASCII form no character is beyond ASCII. -/
theorem ascii_of_mem_writeAt {j : Json} (wellFormed : j.WellFormed) (depth : Nat) :
    ∀ c ∈ writeAt .ascii depth j, c.toNat < 128 := by
  induction wellFormed generalizing depth with
  | null => simp [writeAt]
  | bool value => cases value <;> simp [writeAt]
  | number number =>
    intro c member
    exact ascii_of_isNumeric (isNumeric_of_isNumber number c member)
  | string text => exact fun c => ascii_of_mem_writeString
  | array all ih =>
    intro c member
    rw [writeAt] at member
    split at member
    · rcases List.mem_pair.1 member with rfl | rfl <;> decide
    refine ascii_of_mem_enclosed (by decide) (by decide) (fun c inside => ?_) member
    exact ascii_of_mem_writeItems (fun item member => ih item member _) inside
  | object all ih =>
    intro c member
    rw [writeAt] at member
    split at member
    · rcases List.mem_pair.1 member with rfl | rfl <;> decide
    refine ascii_of_mem_enclosed (by decide) (by decide) (fun c inside => ?_) member
    exact ascii_of_mem_writeFields (fun field member => ih field member _) inside

end Calculator.Json
