import Calculator.NamedFunction
import Calculator.Number.Pattern
import Calculator.Proofs.Numerals

/-!
The pattern of arguments and their grammar accept the same texts. No numeral ends in a suffix
letter, so that dropping all such letters from the end of an argument takes away the one it may have
and nothing else, and what is left is a numeral in every case.
-/

namespace Calculator

namespace Pattern

open RegularExpression Numeral
open Decimal (IsPlain IsSign IsScientific SpellsPlain)

variable {p q : Pattern} {s t : Text}

theorem mem_char_iff {c : Char} : t ∈ (char c).matches' ↔ t = [c] := Iff.rfl

theorem mem_mul_iff : t ∈ (p * q).matches' ↔ ∃ u ∈ p.matches', ∃ v ∈ q.matches', u ++ v = t := by
  rw [matches'_mul, Language.mem_mul]

theorem mem_add_iff : t ∈ (p + q).matches' ↔ t ∈ p.matches' ∨ t ∈ q.matches' := by
  rw [matches'_add, Language.mem_add]

theorem mem_maybe_iff : t ∈ (maybe p).matches' ↔ t = [] ∨ t ∈ p.matches' := by
  rw [maybe, mem_add_iff, matches'_epsilon, Language.mem_one]

/-- The single characters are matched, and nothing else. -/
theorem mem_oneOf_iff : t ∈ (oneOf s).matches' ↔ ∃ c ∈ s, t = [c] := by
  induction s with
  | nil => simp [oneOf]
  | cons a s ih =>
    rw [oneOf, List.map_cons, List.sum_cons, mem_add_iff, mem_char_iff, ← oneOf, ih]
    simp

theorem mem_word_iff : t ∈ (word s).matches' ↔ t = s := by
  induction s generalizing t with
  | nil => simp [word]
  | cons a s ih =>
    rw [word, List.map_cons, List.prod_cons, mem_mul_iff, ← word]
    simp only [mem_char_iff, ih, exists_eq_left, List.singleton_append]
    exact eq_comm

theorem mem_digits_of_isDigit {c : Char} : c ∈ "0123456789".toList ↔ c.isDigit = true := by
  constructor
  · exact List.all_eq_true.1 (by decide) c
  · intro isDigit
    have inside : ∀ n : Fin 10, Char.ofNat (48 + n) ∈ "0123456789".toList := by decide
    obtain ⟨low, high⟩ : 48 ≤ c.toNat ∧ c.toNat ≤ 57 := Char.isDigit_iff_toNat.1 isDigit
    have place : 48 + (c.toNat - 48) = c.toNat := by omega
    have member := inside ⟨c.toNat - 48, by omega⟩
    rwa [place, Char.ofNat_toNat] at member

theorem mem_digit_iff : t ∈ digit.matches' ↔ ∃ c, c.isDigit = true ∧ t = [c] := by
  rw [digit, mem_oneOf_iff]
  simp only [mem_digits_of_isDigit]

/-- Any number of digits, also none. -/
theorem mem_star_digit_iff : t ∈ digit.star.matches' ↔ ∀ c ∈ t, c.isDigit = true := by
  rw [matches'_star, Language.mem_kstar]
  constructor
  · rintro ⟨parts, rfl, all⟩ c member
    obtain ⟨u, inside, member⟩ := List.mem_flatten.1 member
    obtain ⟨d, isDigit, rfl⟩ := mem_digit_iff.1 (all u inside)
    rw [List.mem_singleton.1 member]
    exact isDigit
  · intro all
    have whole : (t.map fun c => [c]).flatten = t := by
      rw [← List.flatMap_def, List.flatMap_singleton']
    refine ⟨t.map fun c => [c], whole.symm, fun u inside => ?_⟩
    obtain ⟨c, member, rfl⟩ := List.mem_map.1 inside
    exact mem_digit_iff.2 ⟨c, all c member, rfl⟩

theorem mem_digits_iff : t ∈ digits.matches' ↔ t ≠ [] ∧ ∀ c ∈ t, c.isDigit = true := by
  rw [digits, mem_mul_iff]
  constructor
  · rintro ⟨_, first, u, rest, rfl⟩
    obtain ⟨c, isDigit, rfl⟩ := mem_digit_iff.1 first
    exact ⟨by simp, List.forall_mem_cons.2 ⟨isDigit, mem_star_digit_iff.1 rest⟩⟩
  · rintro ⟨nonempty, all⟩
    obtain ⟨c, u, rfl⟩ := List.exists_cons_of_ne_nil nonempty
    rw [List.forall_mem_cons] at all
    exact ⟨[c], mem_digit_iff.2 ⟨c, all.1, rfl⟩, u, mem_star_digit_iff.2 all.2, rfl⟩

theorem mem_sign_iff : t ∈ sign.matches' ↔ IsSign t := by
  rw [sign, mem_maybe_iff, mem_oneOf_iff, IsSign]
  simp

/-- The two alternatives for a number together are the plain decimals. -/
theorem mem_plain_iff : t ∈ plain.matches' ↔ IsPlain t := by
  rw [plain, mem_add_iff]
  simp only [mem_mul_iff, mem_maybe_iff, mem_oneOf_iff, mem_digits_iff, mem_star_digit_iff,
    List.mem_singleton, exists_eq_left]
  constructor
  · rintro (⟨_, ⟨whole, ⟨nonempty, before⟩, point, isPoint, rfl⟩, fraction, behind, rfl⟩ |
      ⟨fraction, ⟨nonempty, behind⟩, rfl⟩)
    · rcases isPoint with rfl | rfl
      · have all : ∀ c ∈ whole ++ fraction, c.isDigit = true := fun c member =>
          (List.mem_append.1 member).elim (before c) (behind c)
        rw [List.append_nil]
        exact Decimal.isPlain_of_digits (by simp [nonempty]) all
      · rw [List.append_assoc, List.singleton_append, Decimal.isPlain_append_point_iff before]
        exact ⟨behind, by simp [nonempty]⟩
    · have noDigit : ∀ c ∈ ([] : Text), c.isDigit = true := nofun
      exact (Decimal.isPlain_append_point_iff noDigit).2 ⟨behind, nonempty⟩
  · intro plain
    obtain ⟨d, spells⟩ := plain.exists_spells
    cases spells with
    | whole nonempty digits =>
      exact .inl ⟨t, ⟨t, ⟨nonempty, digits⟩, [], .inl rfl, by simp⟩, [], nofun, by simp⟩
    | @point whole fraction before behind nonempty =>
      by_cases empty : whole = []
      · subst empty
        exact .inr ⟨fraction, ⟨nonempty, behind⟩, rfl⟩
      · exact .inl ⟨whole ++ ['.'], ⟨whole, ⟨empty, before⟩, ['.'], .inr rfl, rfl⟩, fraction,
          behind, by simp⟩

/-- A decimal with an exponent or without one. -/
theorem mem_scientific_iff : t ∈ (plain * maybe exponent).matches' ↔ IsScientific t := by
  rw [exponent, mem_mul_iff]
  simp only [mem_maybe_iff, mem_mul_iff, mem_plain_iff, mem_oneOf_iff, mem_sign_iff,
    mem_digits_iff]
  constructor
  · rintro ⟨s, plain, _, rfl | ⟨_, ⟨_, ⟨mark, isMark, rfl⟩, sign, isSign, rfl⟩, digits,
      ⟨nonempty, all⟩, rfl⟩, rfl⟩
    · rw [List.append_nil]
      exact .plain plain
    · rw [← List.append_assoc]
      exact .scaled plain (by simpa using isMark) isSign nonempty all
  · rintro (plain | @⟨s, sign, digits, mark, plain, isMark, isSign, nonempty, all⟩)
    · exact ⟨t, plain, [], .inl rfl, List.append_nil t⟩
    · exact ⟨s, plain, mark :: sign ++ digits, .inr ⟨mark :: sign,
        ⟨[mark], ⟨mark, by simpa using isMark, rfl⟩, sign, isSign, rfl⟩, digits, ⟨nonempty, all⟩,
        rfl⟩, by simp⟩

theorem mem_numeral_iff : t ∈ numeral.matches' ↔ IsNumeral .long t := by
  rw [numeral, mem_mul_iff]
  simp only [mem_add_iff, mem_word_iff, mem_sign_iff, mem_scientific_iff]
  constructor
  · rintro ⟨sign, isSign, s, (rfl | rfl) | decimal, rfl⟩
    · exact .notANumber isSign
    · exact .infinity isSign
    · exact .finite isSign decimal
  · intro numeral
    cases numeral with
    | notANumber isSign => exact ⟨_, isSign, _, .inl (.inl rfl), rfl⟩
    | infinity isSign => exact ⟨_, isSign, _, .inl (.inr rfl), rfl⟩
    | finite isSign decimal => exact ⟨_, isSign, _, .inr decimal, rfl⟩

theorem mem_ending_iff : t ∈ (maybe (oneOf ['f', 'F', 'd', 'D'])).matches' ↔ IsEnding t := by
  have letter (c : Char) : c ∈ ['f', 'F', 'd', 'D'] ↔ isSuffix c = true := by
    simp [isSuffix, or_assoc]
  rw [mem_maybe_iff, mem_oneOf_iff, IsEnding]
  simp only [letter, and_comm]

/-- The pattern and the grammar accept the same texts. -/
theorem mem_argument_iff : t ∈ argument.matches' ↔ IsArgument t := by
  rw [argument, mem_mul_iff, IsArgument]
  simp only [mem_numeral_iff, mem_ending_iff]
  constructor
  · rintro ⟨u, numeral, v, ending, rfl⟩
    exact ⟨u, v, rfl, numeral, ending⟩
  · rintro ⟨u, v, rfl, numeral, ending⟩
    exact ⟨u, numeral, v, ending, rfl⟩

theorem rmatch_argument_iff : argument.rmatch t = true ↔ IsArgument t := by
  rw [rmatch_iff_matches', mem_argument_iff]

end Pattern

namespace Numeral

open Decimal (IsPlain IsSign IsScientific)

variable {t ending : Text} {n : Numeral} {c : Char}

/-- A decimal ends in none of the letters, for it ends in a digit or in the point. -/
theorem isSuffix_eq_false_of_decimal (last : c.isDigit = true ∨ c = '.') : isSuffix c = false := by
  refine Bool.eq_false_iff.2 fun suffix => ?_
  simp only [isSuffix, Bool.or_eq_true, decide_eq_true_eq, or_assoc] at suffix
  rcases suffix with rfl | rfl | rfl | rfl <;> exact absurd last (by decide)

/-- No numeral ends in a letter that may be dropped. -/
theorem IsNumeral.isSuffix_getLast (numeral : IsNumeral .long t) (last : t.getLast? = some c) :
    isSuffix c = false := by
  cases numeral with
  | notANumber =>
    rw [List.getLast?_append_of_ne_nil _ (by decide)] at last
    cases last
    decide
  | infinity =>
    rw [List.getLast?_append_of_ne_nil _ (by decide)] at last
    cases last
    decide
  | @finite sign s isSign decimal =>
    obtain ⟨a, rest, rfl, -⟩ := decimal.exists_head
    rw [List.getLast?_append_of_ne_nil _ (List.cons_ne_nil a rest)] at last
    exact isSuffix_eq_false_of_decimal (decimal.of_getLast? last)

/-- Dropping all suffix letters at the end of an argument leaves its numeral. -/
theorem IsNumeral.rdropWhile_append (numeral : IsNumeral .long t) (isEnding : IsEnding ending) :
    (t ++ ending).rdropWhile isSuffix = t := by
  have stays : t.rdropWhile isSuffix = t :=
    Text.rdropWhile_eq_self fun c last => numeral.isSuffix_getLast last
  rcases isEnding with rfl | ⟨c, rfl, suffix⟩
  · rw [List.append_nil, stays]
  · rw [List.rdropWhile_concat_pos isSuffix t c suffix, stays]

/-- Dropping one letter does the same. -/
theorem IsNumeral.dropSuffix_append (numeral : IsNumeral .long t) (isEnding : IsEnding ending) :
    dropSuffix (t ++ ending) = t := by
  rcases isEnding with rfl | ⟨c, rfl, suffix⟩
  · rw [List.append_nil, dropSuffix, if_neg]
    cases last : t.getLast? with
    | none => exact Bool.false_ne_true
    | some c =>
      change ¬ isSuffix c = true
      rw [numeral.isSuffix_getLast last]
      exact Bool.false_ne_true
  · rw [dropSuffix, List.getLast?_concat, if_pos (by exact suffix), List.dropLast_concat]

/-- One letter at most is dropped. -/
theorem exists_eq_dropSuffix_append (t : Text) :
    ∃ ending, t = dropSuffix t ++ ending ∧ IsEnding ending := by
  rw [dropSuffix]
  split_ifs with suffix
  · cases last : t.getLast? with
    | none =>
      rw [last] at suffix
      cases suffix
    | some c =>
      rw [last] at suffix
      exact ⟨[c], (List.dropLast_append_getLast? c last).symm, .inr ⟨c, rfl, suffix⟩⟩
  · exact ⟨[], (List.append_nil t).symm, .inl rfl⟩

/-- An argument is read as the numeral in front of its letter. -/
theorem readArgument?_eq_some_iff :
    readArgument? t = some n ↔
      ∃ numeral ending, t = numeral ++ ending ∧ Spells numeral n ∧ IsEnding ending := by
  rw [readArgument?, read?_eq_some_iff]
  constructor
  · intro spells
    obtain ⟨ending, whole, isEnding⟩ := exists_eq_dropSuffix_append t
    exact ⟨dropSuffix t, ending, whole, spells, isEnding⟩
  · rintro ⟨numeral, ending, rfl, spells, isEnding⟩
    rw [(isNumeral_iff.2 ⟨n, spells⟩).dropSuffix_append isEnding]
    exact spells

theorem isSome_readArgument?_iff : (readArgument? t).isSome = true ↔ IsArgument t := by
  rw [Option.isSome_iff_exists, IsArgument]
  simp only [readArgument?_eq_some_iff, isNumeral_iff]
  constructor
  · rintro ⟨n, numeral, ending, rfl, spells, isEnding⟩
    exact ⟨numeral, ending, rfl, ⟨n, spells⟩, isEnding⟩
  · rintro ⟨numeral, ending, rfl, ⟨n, spells⟩, isEnding⟩
    exact ⟨n, numeral, ending, rfl, spells, isEnding⟩

/-- A character of ASCII that leaves a mark. -/
def IsVisible (c : Char) : Prop :=
  0x20 < c.toNat ∧ c.toNat < 0x7F

theorem IsVisible.isLow (visible : IsVisible c) : Text.isLow c = false := by
  have low : 0x20 < c.toNat := visible.1
  simp only [Text.isLow, decide_eq_false_iff_not]
  omega

theorem IsVisible.isBlank (visible : IsVisible c) : Text.isBlank c = false := by
  obtain ⟨low, high⟩ : 0x20 < c.toNat ∧ c.toNat < 0x7F := visible
  rw [Bool.eq_false_iff]
  simp only [Text.isBlank, ne_eq, Bool.or_eq_true, Bool.and_eq_true, decide_eq_true_eq]
  omega

theorem isVisible_of_sign {sign : Text} (isSign : IsSign sign) : ∀ c ∈ sign, IsVisible c := by
  rcases isSign with rfl | rfl | rfl <;> simp [IsVisible]

theorem isVisible_of_isDigit (digit : c.isDigit = true) : IsVisible c := by
  obtain ⟨low, high⟩ : 48 ≤ c.toNat ∧ c.toNat ≤ 57 := Char.isDigit_iff_toNat.1 digit
  exact ⟨by omega, by omega⟩

theorem isVisible_of_isScientific (decimal : IsScientific t) : ∀ c ∈ t, IsVisible c := by
  have plainVisible {s : Text} (plain : IsPlain s) : ∀ c ∈ s, IsVisible c := by
    intro c member
    rcases plain.numeric c member with digit | rfl
    · exact isVisible_of_isDigit digit
    · simp [IsVisible]
  cases decimal with
  | plain plain => exact plainVisible plain
  | @scaled s sign digits mark plain isMark isSign nonempty all =>
    intro c member
    simp only [List.append_assoc, List.cons_append, List.mem_append, List.mem_cons] at member
    rcases member with inside | rfl | inside | inside
    · exact plainVisible plain c inside
    · rcases isMark with rfl | rfl <;> simp [IsVisible]
    · exact isVisible_of_sign isSign c inside
    · exact isVisible_of_isDigit (all c inside)

theorem IsNumeral.isVisible (numeral : IsNumeral .long t) : ∀ c ∈ t, IsVisible c := by
  cases numeral with
  | notANumber isSign =>
    rw [List.forall_mem_append]
    exact ⟨isVisible_of_sign isSign, by simp [NumberWords.long, IsVisible]⟩
  | infinity isSign =>
    rw [List.forall_mem_append]
    exact ⟨isVisible_of_sign isSign, by simp [NumberWords.long, IsVisible]⟩
  | finite isSign decimal =>
    rw [List.forall_mem_append]
    exact ⟨isVisible_of_sign isSign, isVisible_of_isScientific decimal⟩

theorem IsEnding.isVisible (isEnding : IsEnding ending) : ∀ c ∈ ending, IsVisible c := by
  rcases isEnding with rfl | ⟨c, rfl, suffix⟩
  · simp
  · simp only [isSuffix, Bool.or_eq_true, decide_eq_true_eq, or_assoc] at suffix
    rcases suffix with rfl | rfl | rfl | rfl <;> simp [IsVisible]

/-- Nothing of an argument is a blank. -/
theorem IsArgument.isVisible (argument : IsArgument t) : ∀ c ∈ t, IsVisible c := by
  obtain ⟨numeral, ending, rfl, isNumeral, isEnding⟩ := argument
  exact List.forall_mem_append.2 ⟨isNumeral.isVisible, isEnding.isVisible⟩

/-- So an argument is not trimmed any further. -/
theorem IsArgument.trim_eq (argument : IsArgument t) : Text.trim Text.isLow t = t :=
  Text.trim_eq_self fun c member => (argument.isVisible c member).isLow

end Numeral

open Numeral

/-- A text that is a numeral and an ending without the low characters around it has the value of the
numeral. -/
theorem readArgument_of_spells {numeral ending : Text} {n : Numeral} (spells : Spells numeral n)
    (isEnding : IsEnding ending) {t : Text} (trimmed : Text.trim Text.isLow t = numeral ++ ending)
    (function : String) : readArgument function t = .ok n.toFloat := by
  have read : readArgument? (Text.trim Text.isLow t) = some n :=
    readArgument?_eq_some_iff.2 ⟨numeral, ending, trimmed, spells, isEnding⟩
  rw [readArgument, read]

/-- The error holds the text with all that was around it. -/
theorem readArgument_of_not_isArgument {t : Text}
    (other : ¬ IsArgument (Text.trim Text.isLow t)) (function : String) :
    readArgument function t = .error (.notANumber function t) := by
  rw [← isSome_readArgument?_iff, Bool.not_eq_true, Option.isSome_eq_false_iff,
    Option.isNone_iff_eq_none] at other
  rw [readArgument, other]

/-- An argument is read if it has the pattern of arguments without the low characters around it, and
refused as it was typed if not. The pattern is the grammar of a numeral and one letter at most; with
all such letters dropped from its end the numeral is left, which is always read, and which has the
value of the argument with any letter or none. -/
theorem readArgument_of_pattern (function : String) (t : Text) :
    let s := Text.trim Text.isLow t
    (Pattern.argument.rmatch s = true ↔ IsArgument s) ∧
    ((∃ x, readArgument function t = .ok x) ↔ IsArgument s) ∧
    (Pattern.argument.rmatch s = true →
      ∃ n, read? .long (s.rdropWhile isSuffix) = some n ∧
        readArgument function t = .ok n.toFloat ∧
        ∀ numeral ending, s = numeral ++ ending → IsNumeral .long numeral → IsEnding ending →
          s.rdropWhile isSuffix = numeral ∧ Spells numeral n ∧
          ∀ other, IsEnding other → readArgument function (numeral ++ other) = .ok n.toFloat) ∧
    (Pattern.argument.rmatch s = false →
      readArgument function t = .error (.notANumber function t)) := by
  intro s
  have pattern : Pattern.argument.rmatch s = true ↔ IsArgument s := Pattern.rmatch_argument_iff
  have accepts (argument : IsArgument s) :
      ∃ numeral ending n, s = numeral ++ ending ∧ Spells numeral n ∧ IsEnding ending := by
    obtain ⟨numeral, ending, whole, isNumeral, isEnding⟩ := argument
    obtain ⟨n, spells⟩ := isNumeral_iff.1 isNumeral
    exact ⟨numeral, ending, n, whole, spells, isEnding⟩
  refine ⟨pattern, ⟨?_, ?_⟩, ?_, ?_⟩
  · rintro ⟨x, read⟩
    by_contra other
    rw [readArgument_of_not_isArgument other] at read
    cases read
  · intro argument
    obtain ⟨numeral, ending, n, whole, spells, isEnding⟩ := accepts argument
    exact ⟨n.toFloat, readArgument_of_spells spells isEnding whole function⟩
  · intro matched
    obtain ⟨numeral, ending, n, whole, spells, isEnding⟩ := accepts (pattern.1 matched)
    have left : s.rdropWhile isSuffix = numeral := by
      rw [whole, (isNumeral_iff.2 ⟨n, spells⟩).rdropWhile_append isEnding]
    refine ⟨n, ?_, readArgument_of_spells spells isEnding whole function, ?_⟩
    · rw [left, read?_eq_some_iff]
      exact spells
    · intro numeral' ending' whole' isNumeral' isEnding'
      have same : s.rdropWhile isSuffix = numeral' := by
        rw [whole', isNumeral'.rdropWhile_append isEnding']
      obtain rfl : numeral = numeral' := left.symm.trans same
      refine ⟨same, spells, fun other isEnding => ?_⟩
      have argument : IsArgument (numeral ++ other) := ⟨numeral, other, rfl, isNumeral', isEnding⟩
      exact readArgument_of_spells spells isEnding argument.trim_eq function
  · intro unmatched
    refine readArgument_of_not_isArgument (fun argument => ?_) function
    rw [pattern.2 argument] at unmatched
    cases unmatched

end Calculator
