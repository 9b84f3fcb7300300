import Calculator.Proofs.Commands
import Calculator.Proofs.Completion

/-!
A message is made of fixed words, a place and what is shown there. A text is shown between marks,
where it is read back whatever stands behind it, and the end of the input without them, so the two
are never taken for each other. A place ends where its digits end.
-/

namespace Calculator

open Cursor

/-! ## What is shown is printable -/

namespace Text

theorem isPrintable_of_ascii {a : Char} (low : 0x20 ≤ a.toNat) (high : a.toNat ≤ 0x7E) :
    isPrintable a = true := by
  have apart : unprintableRanges.all (fun r => r.2 < 0x20 || 0x7E < r.1) = true := by
    decide +kernel
  have outside : unprintableRanges.any (fun r => r.1 ≤ a.toNat && a.toNat ≤ r.2) = false := by
    rw [List.any_eq_false]
    intro r member
    have apart := List.all_eq_true.1 apart r member
    simp only [Bool.or_eq_true, Bool.and_eq_true, decide_eq_true_eq] at apart ⊢
    omega
  rw [isPrintable, outside]
  rfl

theorem isPrintable_of_mem_hex {width n : Nat} {a : Char} (member : a ∈ hex width n) :
    isPrintable a = true := by
  have digits : ∀ m : Fin 16, 0x20 ≤ (Nat.digitChar m).toNat ∧ (Nat.digitChar m).toNat ≤ 0x7E := by
    decide
  induction width generalizing n with
  | zero => cases member
  | succ width ih =>
    rcases List.mem_append.1 member with before | last
    · exact ih before
    · obtain ⟨low, high⟩ := digits ⟨n % 16, Nat.mod_lt n (by decide)⟩
      rw [List.mem_singleton.1 last]
      exact isPrintable_of_ascii low high

/-- A character that is not printable is escaped, and an escape is printable. -/
theorem isPrintable_of_mem_escapeChar {mark c a : Char} (isMark : isPrintable mark = true)
    (member : a ∈ escapeChar mark c) : isPrintable a = true := by
  have escaped {b : Char} {t : Text} (first : isPrintable b = true)
      (rest : ∀ x ∈ t, isPrintable x = true) (member : a ∈ backslash :: b :: t) :
      isPrintable a = true := by
    rcases List.mem_cons.1 member with rfl | member
    · exact isPrintable_of_ascii (by decide) (by decide)
    rcases List.mem_cons.1 member with rfl | member
    · exact first
    · exact rest a member
  have alone {b : Char} (first : isPrintable b = true) (member : a ∈ [backslash, b]) :
      isPrintable a = true :=
    escaped first (List.forall_mem_nil _) member
  have digits {width : Nat} : ∀ x ∈ hex width c.toNat, isPrintable x = true :=
    fun x => isPrintable_of_mem_hex
  rw [escapeChar] at member
  split at member
  case isTrue same =>
    refine alone ?_ member
    rcases same with rfl | rfl
    · exact isMark
    · exact isPrintable_of_ascii (by decide) (by decide)
  split at member
  case isTrue => exact alone (isPrintable_of_ascii (by decide) (by decide)) member
  split at member
  case isTrue => exact alone (isPrintable_of_ascii (by decide) (by decide)) member
  split at member
  case isTrue => exact alone (isPrintable_of_ascii (by decide) (by decide)) member
  split at member
  case isTrue printable => rwa [List.mem_singleton.1 member]
  split at member
  case isTrue => exact escaped (isPrintable_of_ascii (by decide) (by decide)) digits member
  split at member
  · exact escaped (isPrintable_of_ascii (by decide) (by decide)) digits member
  · exact escaped (isPrintable_of_ascii (by decide) (by decide)) digits member

theorem isPrintable_delimiter (t : Text) : isPrintable (delimiter t) = true := by
  rw [delimiter]
  split <;> exact isPrintable_of_ascii (by decide) (by decide)

theorem isPrintable_of_mem_quoted {t : Text} {a : Char} (member : a ∈ quoted t) :
    isPrintable a = true := by
  have isMark := isPrintable_delimiter t
  rw [quoted, List.cons_append, List.mem_cons, List.mem_append, List.mem_flatMap,
    List.mem_singleton] at member
  rcases member with rfl | ⟨c, -, inside⟩ | rfl
  · exact isMark
  · exact isPrintable_of_mem_escapeChar isMark inside
  · exact isMark

theorem toList_describe (t : Text) : (describe (some t)).toList = quoted t :=
  String.toList_ofList

theorem toList_describe_none : (describe none).toList = "end of input".toList := rfl

/-- What is shown is printable. -/
theorem isPrintable_of_mem_describe {shown : Option Text} {a : Char}
    (member : a ∈ (describe shown).toList) : isPrintable a = true := by
  cases shown with
  | none =>
    have ascii : "end of input".toList.all (fun a => 0x20 ≤ a.toNat && a.toNat ≤ 0x7E) = true := by
      rw [String.toList_ofList]; rfl
    rw [toList_describe_none] at member
    have range := List.all_eq_true.1 ascii a member
    rw [Bool.and_eq_true, decide_eq_true_eq, decide_eq_true_eq] at range
    exact isPrintable_of_ascii range.1 range.2
  | some t => exact isPrintable_of_mem_quoted (toList_describe t ▸ member)

/-- Nothing that is shown is taken for something else, whatever stands behind it. -/
theorem describe_append_inj {shown other : Option Text} {s t : Text}
    (same : (describe shown).toList ++ s = (describe other).toList ++ t) :
    shown = other ∧ s = t := by
  have marked (u : Text) {v w : Text} : quoted u ++ v ≠ "end of input".toList ++ w := by
    rw [String.toList_ofList]
    intro same
    have first : delimiter u = 'e' := (List.cons.inj same).1
    rw [delimiter] at first
    split at first <;> exact absurd first (by decide)
  cases shown with
  | none =>
    rw [toList_describe_none] at same
    cases other with
    | none =>
      rw [toList_describe_none] at same
      exact ⟨rfl, List.append_cancel_left same⟩
    | some u =>
      rw [toList_describe] at same
      exact absurd same.symm (marked u)
  | some t =>
    rw [toList_describe] at same
    cases other with
    | none =>
      rw [toList_describe_none] at same
      exact absurd same (marked t)
    | some u =>
      rw [toList_describe] at same
      have read := congrArg readQuoted? same
      rw [readQuoted?_quoted_append, readQuoted?_quoted_append] at read
      cases read
      exact ⟨rfl, rfl⟩

/-- So two texts, or a text and the end of the input, are never shown alike. -/
theorem describe_injective : Function.Injective describe := by
  intro shown other same
  have whole := congrArg (fun s => s.toList ++ []) same
  exact (describe_append_inj whole).1

/-- A number ends where its digits end. -/
theorem toDigits_append_inj {m n : Nat} {s t : Text}
    (same : Nat.toDigits 10 m ++ s = Nat.toDigits 10 n ++ t)
    (stop : ∀ a, s.head? = some a → a.isDigit = false)
    (stop' : ∀ a, t.head? = some a → a.isDigit = false) : m = n ∧ s = t := by
  have digits (k : Nat) : ∀ a ∈ Nat.toDigits 10 k, a.isDigit = true :=
    fun a => Nat.isDigit_of_mem_toDigits (by decide) (by decide)
  obtain ⟨number, rest⟩ := run_unique same (digits m) (digits n) stop stop'
  refine ⟨?_, rest⟩
  have value := congrArg (Nat.ofDigitChars 10 · 0) number
  simpa [Nat.ofDigitChars_ten_toDigits] using value

/-- Behind the first words the message shows a text between marks, which is read back with the
words that stand behind it. -/
def Quotes (message front : String) (t : Text) (back : String) : Prop :=
  ∃ rest, message.toList = front.toList ++ rest ∧ readQuoted? rest = some (t, back.toList)

theorem quotes_describe (front : String) (t : Text) (back : String) :
    Quotes (front ++ describe (some t) ++ back) front t back := by
  refine ⟨quoted t ++ back.toList, ?_, readQuoted?_quoted_append t back.toList⟩
  rw [String.toList_append, String.toList_append, toList_describe, List.append_assoc]

end Text

open Text

namespace ParseError

/-- What the message shows of the text. -/
def shown : ParseError → Option Text
  | mismatchedParentheses _ found => found.map ([·])
  | unexpectedCharacter _ found => found.map ([·])
  | invalidNumberLiteral literal _ => some literal

/-- The words before what is shown. -/
def front : ParseError → String
  | mismatchedParentheses position _ =>
    "Mismatched parentheses: expected ')' at position " ++ toString position ++ ", found "
  | unexpectedCharacter .. => "Unexpected: "
  | invalidNumberLiteral .. => "Invalid number literal "

/-- The words behind what is shown. -/
def back : ParseError → String
  | mismatchedParentheses .. => ""
  | unexpectedCharacter position _ => " at position " ++ toString position
  | invalidNumberLiteral _ position => " at position " ++ toString position

/-- Every message is made of the three parts. -/
theorem message_eq (e : ParseError) : e.message = e.front ++ describe e.shown ++ e.back := by
  cases e with
  | mismatchedParentheses => exact String.append_empty.symm
  | unexpectedCharacter => rfl
  | invalidNumberLiteral => rfl

/-- The first letter of the message. -/
def initial : ParseError → Char
  | mismatchedParentheses .. => 'M'
  | unexpectedCharacter .. => 'U'
  | invalidNumberLiteral .. => 'I'

/-- The first letter tells the class. -/
theorem head?_message (e : ParseError) : e.message.toList.head? = some e.initial := by
  have first {word : String} {a : Char} (rest : String) (head : word.toList.head? = some a) :
      (word ++ rest).toList.head? = some a := by
    rw [String.toList_append, List.head?_append, head]
    rfl
  have mismatched :
      "Mismatched parentheses: expected ')' at position ".toList.head? = some 'M' := by
    rw [String.toList_ofList]; rfl
  have unexpected : "Unexpected: ".toList.head? = some 'U' := by rw [String.toList_ofList]; rfl
  have invalid : "Invalid number literal ".toList.head? = some 'I' := by
    rw [String.toList_ofList]; rfl
  rw [message_eq]
  cases e with
  | mismatchedParentheses => exact first _ (first _ (first _ (first _ mismatched)))
  | unexpectedCharacter => exact first _ (first _ unexpected)
  | invalidNumberLiteral => exact first _ (first _ invalid)

theorem toList_message (e : ParseError) :
    e.message.toList = e.front.toList ++ ((describe e.shown).toList ++ e.back.toList) := by
  rw [message_eq, String.toList_append, String.toList_append, List.append_assoc]

/-- The place in the words before what is shown, with a text behind them. -/
theorem toList_front_append (place : Nat) (found : Option Char) (t : Text) :
    (front (mismatchedParentheses place found)).toList ++ t =
      "Mismatched parentheses: expected ')' at position ".toList ++
        (Nat.toDigits 10 place ++ (", found ".toList ++ t)) := by
  have digits : (toString place).toList = Nat.toDigits 10 place := Nat.toList_repr
  have words (a b : String) : (a ++ toString place ++ b).toList ++ t =
      a.toList ++ (Nat.toDigits 10 place ++ (b.toList ++ t)) := by
    rw [String.toList_append, String.toList_append, digits, List.append_assoc, List.append_assoc]
  exact words _ _

/-- A parse error can be told from its message. -/
theorem message_injective : Function.Injective message := by
  have character {found found' : Option Char} (same : found.map ([·]) = found'.map ([·])) :
      found = found' :=
    Option.map_injective List.singleton_injective same
  have place {m n : Nat} {word : String}
      (same : (word ++ toString m).toList = (word ++ toString n).toList) : m = n :=
    Nat.repr_injective ((String.append_right_inj word).1 (String.toList_injective same))
  intro e e' same
  have initials : some e.initial = some e'.initial := by
    rw [← head?_message, ← head?_message, same]
  have whole := congrArg String.toList same
  rw [toList_message, toList_message] at whole
  cases e with
  | mismatchedParentheses position found =>
    cases e' with
    | mismatchedParentheses position' found' =>
      have comma (t : Text) : ∀ a, (", found ".toList ++ t).head? = some a → a.isDigit = false := by
        rw [String.toList_ofList]
        rintro a ⟨⟩
        rfl
      rw [toList_front_append, toList_front_append] at whole
      obtain ⟨rfl, rest⟩ := toDigits_append_inj (List.append_cancel_left whole) (comma _) (comma _)
      rw [character (describe_append_inj (List.append_cancel_left rest)).1]
    | _ => cases initials
  | unexpectedCharacter position found =>
    cases e' with
    | unexpectedCharacter position' found' =>
      obtain ⟨shown, back⟩ := describe_append_inj (List.append_cancel_left whole)
      rw [character shown, place back]
    | _ => cases initials
  | invalidNumberLiteral literal position =>
    cases e' with
    | invalidNumberLiteral literal' position' =>
      obtain ⟨shown, back⟩ := describe_append_inj (List.append_cancel_left whole)
      rw [Option.some.inj shown, place back]
    | _ => cases initials

end ParseError

theorem NamedFunction.eq_notANumber_of_call {f : NamedFunction} {t : Text} {e : ArgumentError}
    (raised : f.call t = .error e) (kind : e.kind = .notANumber) : e = .notANumber f.name t := by
  rw [call_eq] at raised
  split at raised
  · cases raised
    rfl
  · split at raised
    · cases raised
    · cases raised
      cases kind

/-- No name of a function begins another, so the name can be told as well. -/
theorem ArgumentError.notANumber_of_message_eq {f g : NamedFunction} {s t : Text}
    (same : (notANumber f.name s).message = (notANumber g.name t).message) : f = g ∧ s = t := by
  have split (f : NamedFunction) (s : Text) : (notANumber f.name s).message.toList =
      f.name.toList ++ (" needs a number, got ".toList ++ (describe (some s)).toList) := by
    have words (a b c : String) : (a ++ b ++ c).toList = a.toList ++ (b.toList ++ c.toList) := by
      rw [String.toList_append, String.toList_append, List.append_assoc]
    exact words _ _ _
  have initial (f : NamedFunction) (rest : Text) :
      (f.name.toList ++ rest).head? = f.name.toList.head? := by
    cases f <;> rfl
  have whole := congrArg String.toList same
  rw [split, split] at whole
  have initials := congrArg List.head? whole
  rw [initial, initial] at initials
  obtain rfl : f = g := by
    revert initials
    cases f <;> cases g <;> decide
  have shown := List.append_cancel_left (List.append_cancel_left whole)
  exact ⟨rfl, Option.some.inj (describe_injective (String.toList_injective shown))⟩

/-- Nothing is lost in a message. It tells the class of a parse error, its place, its character and
its literal, and the function of an argument error with the argument as it was typed. Texts are
shown apart from each other and from the end of the input, by printable characters only, and what
stands between the marks is read back to the text that is meant. -/
theorem eq_of_message_eq :
    Function.Injective ParseError.message ∧
    (∀ {f g : NamedFunction} {s t : Text} {e e' : ArgumentError},
      f.call s = .error e → g.call t = .error e' → e.kind = .notANumber → e'.kind = .notANumber →
        e.message = e'.message → f = g ∧ s = t) ∧
    Function.Injective Text.describe ∧
    (∀ shown, ∀ a ∈ (Text.describe shown).toList, Text.isPrintable a = true) ∧
    (∀ (e : ParseError) (t : Text), e.shown = some t → Quotes e.message e.front t e.back) ∧
    (∀ function t, Quotes (ArgumentError.notANumber function t).message
      (function ++ " needs a number, got ") t "") ∧
    ∀ t, Quotes (Text.describe (some t)) "" t "" := by
  refine ⟨ParseError.message_injective, ?argument, Text.describe_injective,
    fun shown a => Text.isPrintable_of_mem_describe, ?parse, ?typed, ?shown⟩
  case argument =>
    intro f g s t e e' raised raised' kind kind' same
    rw [NamedFunction.eq_notANumber_of_call raised kind,
      NamedFunction.eq_notANumber_of_call raised' kind'] at same
    exact ArgumentError.notANumber_of_message_eq same
  case parse =>
    intro e t shown
    rw [e.message_eq, shown]
    exact Text.quotes_describe e.front t e.back
  case typed =>
    intro function t
    have quotes := Text.quotes_describe (function ++ " needs a number, got ") t ""
    rwa [String.append_empty] at quotes
  case shown =>
    intro t
    have quotes := Text.quotes_describe "" t ""
    rwa [String.append_empty, String.empty_append] at quotes

/-- Two functions refuse one argument, which holds both marks and a space that is not shown, in
different words. -/
theorem eq_of_message_eq_refused :
    (NamedFunction.sqrt.call "\x27\x22\xa0".toList =
        .error (.notANumber "sqrt" "\x27\x22\xa0".toList) ∧
      NamedFunction.cube.call "\x27\x22\xa0".toList =
        .error (.notANumber "cube" "\x27\x22\xa0".toList)) ∧
    (ArgumentError.notANumber "sqrt" "\x27\x22\xa0".toList).message ≠
      (ArgumentError.notANumber "cube" "\x27\x22\xa0".toList).message := by
  have first : NamedFunction.sqrt.call "\x27\x22\xa0".toList =
      .error (.notANumber "sqrt" "\x27\x22\xa0".toList) := by decide +kernel
  have second : NamedFunction.cube.call "\x27\x22\xa0".toList =
      .error (.notANumber "cube" "\x27\x22\xa0".toList) := by decide +kernel
  refine ⟨⟨first, second⟩, fun same => ?_⟩
  have functions := (eq_of_message_eq.2.1 first second rfl rfl same).1
  cases functions

end Calculator
