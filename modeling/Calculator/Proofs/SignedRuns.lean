import Calculator.Proofs.Arguments
import Calculator.Proofs.Continuation

/-!
To the reader of expressions a sign stands before a literal, to the reader of arguments it is a part
of the numeral, for which words, exponents and suffix letters are known besides. In the end both
accept the plain decimals and give the same double.
-/

namespace Calculator

open Cursor
open Decimal (IsSign IsPlain IsSignless)

variable {sign run : Text}

/-- What holds of signs, digits and the point holds of each character. -/
theorem forall_mem_signed {P : Char → Prop} (isSign : IsSign sign)
    (numeric : ∀ a ∈ run, isNumeric a = true) (plus : P '+') (minus : P '-')
    (decimal : ∀ a, a.isDigit = true ∨ a = '.' → P a) : ∀ a ∈ sign ++ run, P a := by
  refine List.forall_mem_append.2 ⟨?_, fun a member => ?_⟩
  · rcases isSign with rfl | rfl | rfl
    · exact nofun
    · exact List.forall_mem_singleton.2 plus
    · exact List.forall_mem_singleton.2 minus
  · exact decimal a (by simpa [isNumeric] using numeric a member)

theorem Numeral.isVisible_signed (isSign : IsSign sign) (numeric : ∀ a ∈ run, isNumeric a = true) :
    ∀ a ∈ sign ++ run, IsVisible a := by
  refine forall_mem_signed isSign numeric (by simp [IsVisible]) (by simp [IsVisible]) ?_
  rintro a (digit | rfl)
  · exact isVisible_of_isDigit digit
  · simp [IsVisible]

/-- The literal with its sign, or the place where it should be. -/
theorem evaluate_signed (isSign : IsSign sign) (numeric : ∀ a ∈ run, isNumeric a = true) :
    (evaluate (sign ++ run) : Except ParseError Float) =
      match (Arithmetic.literal run : Option Float) with
      | some x => .ok (Arithmetic.withSign (negates sign) x)
      | none => .error (if run = [] then .unexpectedCharacter sign.length none
          else .invalidNumberLiteral run sign.length) := by
  have unseparated : ∀ a ∈ sign ++ run, Text.isSeparator a = false := by
    intro a member
    have visible := Numeral.isVisible_signed isSign numeric a member
    refine Bool.eq_false_iff.2 fun separator => ?_
    have low := Text.isLow_of_isSeparator separator
    rw [visible.isLow] at low
    cases low
  have signs : ∀ a ∈ sign, a = '+' ∨ a = '-' := by
    rcases isSign with rfl | rfl | rfl <;> simp
  rw [evaluate_eq_read negate_negate, Text.strip_eq_self unseparated, Continuation.start,
    Continuation.read_signs negate_negate signs]
  by_cases empty : run = []
  · subst empty
    rw [(Continuation.Fails.noFactor (by simp) (by simp) rfl).read]
    rfl
  · have apart : Continuation.Apart run [] := fun _ a first => by cases first
    rw [← List.append_nil run, Continuation.read_run empty numeric apart, List.append_nil]
    cases (Arithmetic.literal run : Option Float) with
    | some x => simp [Continuation.read, Group.opened, Group.addFactor, Group.result, Group.closeTerm]
    | none => simp [empty, ParseError.forward]

namespace Numeral

/-- Of what may stand behind a sign, digits and points can only be a plain decimal. -/
theorem readMagnitude?_of_numeric (numeric : ∀ a ∈ run, isNumeric a = true) :
    readMagnitude? .long run = (Decimal.ofPlain? run).map .finite := by
  have noWord {word : Text} {a : Char} (member : a ∈ word) (other : isNumeric a = false) :
      run ≠ word := by
    rintro rfl
    rw [numeric a member] at other
    cases other
  have unmarked : ∀ a ∈ run, (!Decimal.isExponentMark a) = true := by
    intro a member
    rw [Bool.not_eq_true', Bool.eq_false_iff, ne_eq, Decimal.isExponentMark_iff]
    rintro (rfl | rfl) <;> exact absurd (numeric _ member) (by decide)
  rw [readMagnitude?, if_neg (noWord (a := 'N') (by decide) (by decide)),
    if_neg (noWord (a := 'I') (by decide) (by decide)), Decimal.ofScientific?_plain unmarked]

theorem read?_signed (isSign : IsSign sign) (numeric : ∀ a ∈ run, isNumeric a = true) :
    read? .long (sign ++ run) =
      (Decimal.ofPlain? run).map fun d => ⟨negates sign, .finite d⟩ := by
  have signless : IsSignless run := by
    constructor
    · intro first
      exact absurd (numeric '+' (List.mem_of_head? first)) (by decide)
    · intro first
      exact absurd (numeric '-' (List.mem_of_head? first)) (by decide)
  have magnitude := readMagnitude?_of_numeric numeric
  rcases isSign with rfl | rfl | rfl
  · rw [List.nil_append, read?_of_isSignless signless, magnitude, Option.map_map]
    rfl
  · rw [List.singleton_append, read?, magnitude, Option.map_map]
    rfl
  · rw [List.singleton_append, read?, magnitude, Option.map_map]
    rfl

theorem dropSuffix_signed (isSign : IsSign sign) (numeric : ∀ a ∈ run, isNumeric a = true) :
    dropSuffix (sign ++ run) = sign ++ run := by
  have others : ∀ a ∈ sign ++ run, isSuffix a = false :=
    forall_mem_signed isSign numeric (by decide) (by decide) fun a => isSuffix_eq_false_of_decimal
  rw [dropSuffix, if_neg]
  intro suffix
  obtain ⟨a, last, suffix⟩ := (Option.any_eq_true ..).1 suffix
  rw [others a (List.mem_of_getLast? last)] at suffix
  cases suffix

end Numeral

/-- The numeral with its sign, or the whole text in the error. -/
theorem readArgument_signed (function : String) (isSign : IsSign sign)
    (numeric : ∀ a ∈ run, isNumeric a = true) :
    readArgument function (sign ++ run) =
      match (Arithmetic.literal run : Option Float) with
      | some x => .ok (Arithmetic.withSign (negates sign) x)
      | none => .error (.notANumber function (sign ++ run)) := by
  have whole : Text.trim Text.isLow (sign ++ run) = sign ++ run :=
    Text.trim_eq_self fun a member => (Numeral.isVisible_signed isSign numeric a member).isLow
  rw [readArgument, whole, Numeral.readArgument?, Numeral.dropSuffix_signed isSign numeric,
    Numeral.read?_signed isSign numeric]
  change _ = match (Decimal.ofPlain? run).map Decimal.toFloat with
    | some x => Except.ok (Arithmetic.withSign (negates sign) x)
    | none => .error (ArgumentError.notANumber function (sign ++ run))
  cases Decimal.ofPlain? run with
  | some d => rfl
  | none => rfl

/-- A run of digits and points with a sign or none is an expression if and only if it is an
argument, that is if it is a plain decimal, and both have one value: that of the decimal with the
sign. -/
theorem evaluate_and_readArgument (function : String) (isSign : IsSign sign)
    (numeric : ∀ a ∈ run, isNumeric a = true) :
    let t := sign ++ run
    ((∃ x : Float, evaluate t = .ok x) ↔ IsPlain run) ∧
    ((∃ x, readArgument function t = .ok x) ↔ IsPlain run) ∧
    (IsPlain run → ∃ x : Float, Arithmetic.literal run = some x ∧
      evaluate t = .ok (Arithmetic.withSign (negates sign) x) ∧
      readArgument function t = .ok (Arithmetic.withSign (negates sign) x)) ∧
    (¬ IsPlain run →
      (evaluate t : Except ParseError Float) =
        .error (if run = [] then .unexpectedCharacter sign.length none
          else .invalidNumberLiteral run sign.length) ∧
      readArgument function t = .error (.notANumber function t)) := by
  intro t
  have expression := evaluate_signed isSign numeric
  have argument := readArgument_signed function isSign numeric
  cases literal : (Arithmetic.literal run : Option Float) with
  | some x =>
    rw [literal] at expression argument
    have plain := isPlain_of_literal literal
    exact ⟨iff_of_true ⟨_, expression⟩ plain, iff_of_true ⟨_, argument⟩ plain,
      fun _ => ⟨x, rfl, expression, argument⟩, fun notPlain => absurd plain notPlain⟩
  | none =>
    rw [literal] at expression argument
    have notPlain := not_isPlain_of_literal literal
    refine ⟨iff_of_false ?_ notPlain, iff_of_false ?_ notPlain, fun plain => absurd plain notPlain,
      fun _ => ⟨expression, argument⟩⟩
    · rintro ⟨x, value⟩
      cases expression.symm.trans value
    · rintro ⟨x, value⟩
      cases argument.symm.trans value

/-- Zero keeps its sign, and a run with two points is refused behind it. -/
theorem evaluate_and_readArgument_minus :
    (IsSign ['-'] ∧ (∀ a ∈ ".0".toList, isNumeric a = true) ∧
      (evaluate "-.0".toList : Except ParseError Float) = .ok (-0.0) ∧
      readArgument "cube" "-.0".toList = .ok (-0.0)) ∧
    ((∀ a ∈ "1.2.3".toList, isNumeric a = true) ∧
      (evaluate "-1.2.3".toList : Except ParseError Float) =
        .error (.invalidNumberLiteral "1.2.3".toList 1) ∧
      readArgument "cube" "-1.2.3".toList = .error (.notANumber "cube" "-1.2.3".toList)) := by
  have minus : IsSign ['-'] := .inr (.inr rfl)
  have zero : ∀ a ∈ ".0".toList, isNumeric a = true := by simp [isNumeric]
  have points : ∀ a ∈ "1.2.3".toList, isNumeric a = true := by simp [isNumeric]
  obtain ⟨x, literal, expression, argument⟩ :=
    (evaluate_and_readArgument "cube" minus zero).2.2.1 (by decide)
  have value : (Arithmetic.literal ".0".toList : Option Float) = some 0.0 := by decide +kernel
  cases literal.symm.trans value
  exact ⟨⟨minus, zero, expression, argument⟩, points,
    (evaluate_and_readArgument "cube" minus points).2.2.2 (by decide)⟩

end Calculator
