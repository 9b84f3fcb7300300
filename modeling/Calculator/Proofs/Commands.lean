import Calculator.CommandLine
import Calculator.Proofs.Continuation
import Calculator.Proofs.Trimming

/-!
A line of a session and the arguments of a command are read on different ways to the same functions.
A line that is the word `exit` or calls a function begins with a letter, where no expression does,
so no word hides an expression.
-/

namespace Calculator

open Cursor

namespace CommandLine

/-- What a command leaves behind that says what a session replies. -/
def Effect.ofReply (reply : Reply) : Effect :=
  if reply.ok then { stdout := reply.text ++ "\n" }
  else { exitCode := 1, stderr := reply.text ++ "\n" }

/-- The command `eval` without flags shows what a session replies to an expression. -/
theorem runEval_eq_ofReply (settings : Settings) (t : Text) :
    runEval settings t false false = .ofReply (Session.replyWith settings
      ((evaluate t : Except ParseError Float).mapError ParseError.advice)) := by
  rw [runEval, Evaluation.ofText]
  cases (evaluate t : Except ParseError Float) with
  | ok x => rfl
  | error e =>
    simp [Except.mapError, Session.replyWith, Effect.ofReply, Reply.ok, Reply.text, Terminal.line]

/-- The command of a function shows what a session replies to its call. -/
theorem runCall_eq_ofReply (settings : Settings) (f : NamedFunction) (t : Text) :
    runCall settings f t =
      .ofReply (Session.replyWith settings ((f.call t).mapError ArgumentError.advice)) := by
  rw [runCall]
  cases f.call t <;> rfl

/-- What the arguments of a command leave behind, if they are well formed. -/
def effect? (settings : Settings) (stdin : Text) (arguments : List Text) : Option Effect :=
  (ofArguments? arguments).map (run settings stdin)

theorem effect?_eval (settings : Settings) (stdin t : Text) :
    effect? settings stdin ["eval".toList, "--".toList, t] =
      some (runEval settings t false false) :=
  rfl

theorem effect?_call (settings : Settings) (stdin t : Text) (f : NamedFunction) :
    effect? settings stdin [f.name.toList, "--".toList, t] = some (runCall settings f t) := by
  cases f <;> rfl

end CommandLine

/-- The character can stand first in an expression. -/
def beginsFactor (a : Char) : Bool := a = '+' || a = '-' || a = '(' || isNumeric a

theorem beginsFactor_eq_false_iff {a : Char} :
    beginsFactor a = false ↔ (a ≠ '+' ∧ a ≠ '-') ∧ a ≠ '(' ∧ isNumeric a = false := by
  simp [beginsFactor, and_assoc]

/-- A text with another character in front is refused at once. -/
theorem evaluate_of_head {t : Text} {a : Char} (first : (Text.strip t).head? = some a)
    (other : beginsFactor a = false) :
    (evaluate t : Except ParseError Float) = .error (.unexpectedCharacter 0 a) := by
  obtain ⟨noSign, noGroup, noNumber⟩ := beginsFactor_eq_false_iff.1 other
  have fails : Continuation.Fails (Continuation.start : Continuation Float) (Text.strip t) _ :=
    .noFactor (by simpa [first] using noSign) (by simpa [first] using noGroup)
      (by simpa [first] using noNumber)
  rw [evaluate_eq_read negate_negate, fails.read, first]

namespace Text

/-- All characters that begin an expression lie between the parenthesis and the nine. -/
theorem toNat_of_beginsFactor {a : Char} (begins : beginsFactor a = true) :
    40 ≤ a.toNat ∧ a.toNat ≤ 57 := by
  simp only [beginsFactor, isNumeric, Bool.or_eq_true, decide_eq_true_eq,
    Char.isDigit_iff_toNat] at begins
  rcases begins with ((rfl | rfl) | rfl) | ⟨low, high⟩ | rfl
  case inr.inl => exact ⟨Nat.le_trans (by decide) low, high⟩
  all_goals decide

theorem beginsFactor_of_isBlank {a : Char} (blank : isBlank a = true) : beginsFactor a = false := by
  refine Bool.eq_false_iff.2 fun begins => ?_
  have := toNat_of_beginsFactor begins
  simp only [isBlank, Bool.or_eq_true, Bool.and_eq_true, decide_eq_true_eq] at blank
  omega

theorem lowerChar_of_beginsFactor {a : Char} (begins : beginsFactor a = true) :
    lowerChar a = [a] := by
  have range := toNat_of_beginsFactor begins
  exact lowerChar_of_toLower (toLower_eq_self (by omega)) (by omega)

/-- Lower case makes no other character to one with which an expression begins. -/
theorem exists_head_of_lower {t : Text} {b : Char} (first : (lower t).head? = some b)
    (other : beginsFactor b = false) : ∃ a s, t = a :: s ∧ beginsFactor a = false := by
  cases t with
  | nil => cases first
  | cons a s =>
    refine ⟨a, s, rfl, Bool.eq_false_iff.2 fun begins => ?_⟩
    have lowered : lower (a :: s) = a :: lower s := by
      change lowerChar a ++ lower s = _
      rw [lowerChar_of_beginsFactor begins]
      rfl
    rw [lowered] at first
    cases first
    rw [other] at begins
    cases begins

/-- What is before the trimmed text begins no expression either. -/
theorem exists_head_of_trim {t s : Text} {a : Char} (trimmed : trim isBlank t = a :: s)
    (other : beginsFactor a = false) : ∃ b, (strip t).head? = some b ∧ beginsFactor b = false := by
  obtain ⟨front, back, whole, blank, _⟩ := exists_eq_trim isBlank t
  have kept : isSeparator a = false := by
    refine Bool.eq_false_iff.2 fun separator => ?_
    have := head_trim trimmed
    rw [isBlank_of_isSeparator separator] at this
    cases this
  have stripped : strip t = strip front ++ a :: strip (s ++ back) := by
    rw [whole, trimmed, List.append_assoc, List.cons_append, strip_append]
    simp [strip, kept]
  -- A blank that is no separator stays before the word; it begins no expression either.
  cases before : strip front with
  | nil => exact ⟨a, by rw [stripped, before]; rfl, other⟩
  | cons b rest =>
    have inside : b ∈ strip front := before ▸ List.mem_cons_self
    refine ⟨b, by rw [stripped, before]; rfl, ?_⟩
    exact beginsFactor_of_isBlank (blank b (mem_strip.1 inside).1)

end Text

namespace Session

/-- The line is the word that ends the session, or calls a function. -/
def isCommand (line : Text) : Bool := isExit line || (call? line).isSome

/-- Every word that a session knows begins with a letter. -/
theorem exists_head_of_isCommand {line : Text} (command : isCommand line = true) :
    ∃ b, (Text.lower (Text.trim Text.isBlank line)).head? = some b ∧ beginsFactor b = false := by
  rcases Bool.or_eq_true_iff.1 command with exits | calls
  · refine ⟨'e', ?_, by decide⟩
    rw [of_decide_eq_true exits]
    rfl
  · rw [call?, callAs?, Option.isSome_map, Option.isSome_iff_exists] at calls
    obtain ⟨f, found⟩ := calls
    have starts := List.find?_some found
    obtain ⟨rest, whole⟩ := List.isPrefixOf_iff_prefix.1 starts
    rw [← whole]
    cases f
    · exact ⟨'s', rfl, by decide⟩
    · exact ⟨'p', rfl, by decide⟩
    · exact ⟨'c', rfl, by decide⟩

/-- A line that the session takes as a word is no expression. -/
theorem evaluate_of_isCommand {line : Text} (command : isCommand line = true) :
    ∃ a, (evaluate line : Except ParseError Float) = .error (.unexpectedCharacter 0 (some a)) := by
  obtain ⟨b, lowered, letter⟩ := exists_head_of_isCommand command
  obtain ⟨a, s, trimmed, other⟩ := Text.exists_head_of_lower lowered letter
  obtain ⟨c, first, other⟩ := Text.exists_head_of_trim trimmed other
  exact ⟨c, evaluate_of_head first other⟩

/-- A line without a call is left as it is. -/
theorem command_eq (line : Text) :
    command line =
      match call? line with
      | some (f, argument) => (some f, argument)
      | none => (none, line) :=
  rfl

theorem reply_of_not_isExit {line : Text} (stays : isExit line = false) (settings : Settings) :
    reply settings line =
      match command line with
      | (some f, argument) =>
        replyWith settings ((f.call argument).mapError ArgumentError.advice)
      | (none, rest) =>
        replyWith settings
          ((evaluate rest : Except ParseError Float).mapError ParseError.advice) := by
  rw [reply]
  exact if_neg (Bool.eq_false_iff.1 stays)

theorem reply_of_not_isCommand {line : Text} (other : isCommand line = false)
    (settings : Settings) :
    reply settings line = replyWith settings
      ((evaluate line : Except ParseError Float).mapError ParseError.advice) := by
  obtain ⟨stays, noCall⟩ := Bool.or_eq_false_iff.1 other
  rw [Option.isSome_eq_false_iff, Option.isNone_iff_eq_none] at noCall
  rw [reply_of_not_isExit stays, command_eq, noCall]

theorem reply_of_call {line argument : Text} {f : NamedFunction} (stays : isExit line = false)
    (calls : call? line = some (f, argument)) (settings : Settings) :
    reply settings line = replyWith settings
      ((f.call argument).mapError ArgumentError.advice) := by
  rw [reply_of_not_isExit stays, command_eq, calls]

end Session

/-- A text is answered alike as a line and as the argument of `eval`, with its value or with what is
wrong with it. Only a text that is no expression can be a word that the session knows. -/
theorem reply_and_eval (settings : Settings) (stdin t : Text) :
    let effect := CommandLine.effect? settings stdin ["eval".toList, "--".toList, t]
    match (evaluate t : Except ParseError Float) with
    | .ok x =>
      Session.isCommand t = false ∧ Session.reply settings t = .answer (answer settings x) ∧
        effect = some { exitCode := 0, stdout := answer settings x ++ "\n", stderr := "" }
    | .error e =>
      effect = some { exitCode := 1, stdout := "", stderr := e.advice ++ "\n" } ∧
        if Session.isCommand t then e.kind = .unexpectedCharacter
        else Session.reply settings t = .refusal e.advice := by
  intro effect
  have run : effect = some (.ofReply (Session.replyWith settings
      ((evaluate t : Except ParseError Float).mapError ParseError.advice))) :=
    (CommandLine.effect?_eval settings stdin t).trans
      (congrArg some (CommandLine.runEval_eq_ofReply settings t))
  cases command : Session.isCommand t with
  | false =>
    rw [Session.reply_of_not_isCommand command, run]
    cases (evaluate t : Except ParseError Float) with
    | ok x => exact ⟨rfl, rfl, rfl⟩
    | error e => exact ⟨rfl, rfl⟩
  | true =>
    obtain ⟨a, raised⟩ := Session.evaluate_of_isCommand command
    rw [run]
    simp only [raised]
    exact ⟨rfl, rfl⟩

/-! ## A function as a line and as a command -/

namespace NamedFunction

theorem ascii_of_mem_name (f : NamedFunction) : ∀ a ∈ f.name.toList, a.toNat < 128 := by
  cases f <;> simp [name]

/-- The function that a lower-cased line begins with. -/
theorem find?_all (f : NamedFunction) (t : Text) :
    all.find? (fun g => (g.name.toList ++ [' ']).isPrefixOf (f.name.toList ++ ' ' :: t)) =
      some f := by
  cases f <;> simp [all, name, List.isPrefixOf]

/-- A call reads the argument without the low characters around it, and its errors keep them. -/
theorem call_eq (f : NamedFunction) (t : Text) :
    f.call t =
      match Numeral.readArgument? (Text.trim Text.isLow t) with
      | none => .error (.notANumber f.name t)
      | some n =>
        match f.value? n.toFloat with
        | some y => .ok y
        | none => .error (.negativeRadicand t) := by
  rw [call, readArgument]
  cases Numeral.readArgument? (Text.trim Text.isLow t) <;> rfl

/-- What stands around the argument does not count, but for the argument that an error shows. -/
theorem mapError_call {β : Type} {φ : ArgumentError → β} {s t : Text}
    (same : Text.trim Text.isLow s = Text.trim Text.isLow t)
    (notANumber : ∀ function, φ (.notANumber function s) = φ (.notANumber function t))
    (negativeRadicand : φ (.negativeRadicand s) = φ (.negativeRadicand t)) (f : NamedFunction) :
    (f.call s).mapError φ = (f.call t).mapError φ := by
  rw [call_eq, call_eq, same]
  cases Numeral.readArgument? (Text.trim Text.isLow t) with
  | none => exact congrArg Except.error (notANumber f.name)
  | some n =>
    simp only
    cases f.value? n.toFloat with
    | none => exact congrArg Except.error negativeRadicand
    | some y => rfl

end NamedFunction

namespace Session

section

variable {f : NamedFunction} {front word t : Text}

theorem exists_head_of_cased (cased : word.map Char.toLower = f.name.toList) :
    ∃ a rest, word = a :: rest ∧ Text.isBlank a = false := by
  obtain ⟨b, s, named, letter⟩ : ∃ b s, f.name.toList = b :: s ∧ 97 ≤ b.toNat ∧ b.toNat < 123 := by
    cases f <;> exact ⟨_, _, rfl, by decide⟩
  rw [named] at cased
  cases word with
  | nil => cases cased
  | cons a rest =>
    refine ⟨a, rest, rfl, Bool.eq_false_iff.2 fun blank => ?_⟩
    have same : a.toLower = b := (List.cons.inj cased).1
    simp only [Text.isBlank, Bool.or_eq_true, Bool.and_eq_true, decide_eq_true_eq] at blank
    rw [Text.toLower_eq_self (by omega)] at same
    subst same
    omega

/-- The blanks before the name and behind the argument are trimmed, those before the argument stay.
-/
theorem trim_word (blank : ∀ a ∈ front, Text.isBlank a = true)
    (cased : word.map Char.toLower = f.name.toList) (content : ∃ a ∈ t, Text.isBlank a = false) :
    Text.trim Text.isBlank (front ++ word ++ ' ' :: t) =
      word ++ ' ' :: t.rdropWhile Text.isBlank := by
  obtain ⟨a, rest, rfl, first⟩ := exists_head_of_cased cased
  have dropped := Text.rdropWhile_append_left content (a :: rest ++ [' '])
  rw [List.append_assoc, Text.trim_append_left blank, List.cons_append, Text.trim_cons first]
  simpa using dropped

theorem lower_word (cased : word.map Char.toLower = f.name.toList) (t : Text) :
    Text.lower (word ++ ' ' :: t) = f.name.toList ++ ' ' :: Text.lower t := by
  have space : Text.lower (' ' :: t) = ' ' :: Text.lower t := rfl
  rw [Text.lower_append, Text.lower_of_map_toLower cased f.ascii_of_mem_name, space]

/-- A name of a function in any case calls it, with what stands behind the space and before the
blanks at the end. -/
theorem call?_word (blank : ∀ a ∈ front, Text.isBlank a = true)
    (cased : word.map Char.toLower = f.name.toList) (content : ∃ a ∈ t, Text.isBlank a = false) :
    call? (front ++ word ++ ' ' :: t) = some (f, t.rdropWhile Text.isBlank) := by
  have length : word.length = f.name.length := by
    rw [← String.length_toList, ← cased, List.length_map]
  simp only [call?, callAs?, trim_word blank cased content, lower_word cased, f.find?_all,
    Option.map_some]
  rw [← length, List.drop_append]
  simp

theorem isExit_word (blank : ∀ a ∈ front, Text.isBlank a = true)
    (cased : word.map Char.toLower = f.name.toList) (content : ∃ a ∈ t, Text.isBlank a = false) :
    isExit (front ++ word ++ ' ' :: t) = false := by
  rw [isExit, trim_word blank cased content, lower_word cased]
  cases f <;> simp [NamedFunction.name]

end

end Session

/-- A function is called alike by a line and by a command: the line may have the name in any case
with blanks before it. The argument must hold something, and the blanks at its end must be such as
an argument may have there. -/
theorem reply_and_call (settings : Settings) (stdin : Text) (f : NamedFunction)
    {front word t : Text} (blank : ∀ a ∈ front, Text.isBlank a = true)
    (cased : word.map Char.toLower = f.name.toList) (content : ∃ a ∈ t, Text.isBlank a = false)
    (low : ∀ a ∈ t.rtakeWhile Text.isBlank, Text.isLow a = true) :
    let line := front ++ word ++ ' ' :: t
    let reply := Session.reply settings line
    (∃ argument, Session.call? line = some (f, argument) ∧
      (f.call argument).mapError ArgumentError.kind = (f.call t).mapError ArgumentError.kind) ∧
    reply.done = false ∧
    CommandLine.effect? settings stdin [f.name.toList, "--".toList, t] =
      some (if reply.ok then { exitCode := 0, stdout := reply.text ++ "\n", stderr := "" }
        else { exitCode := 1, stdout := "", stderr := reply.text ++ "\n" }) := by
  intro line reply
  have calls : Session.call? line = some (f, t.rdropWhile Text.isBlank) :=
    Session.call?_word blank cased content
  have trimmed : Text.trim Text.isLow (t.rdropWhile Text.isBlank) = Text.trim Text.isLow t := by
    rw [← Text.trim_append_right low, List.rdropWhile_append_rtakeWhile]
  have kinds : (f.call (t.rdropWhile Text.isBlank)).mapError ArgumentError.kind =
      (f.call t).mapError ArgumentError.kind :=
    f.mapError_call trimmed (fun _ => rfl) rfl
  have advices : (f.call (t.rdropWhile Text.isBlank)).mapError ArgumentError.advice =
      (f.call t).mapError ArgumentError.advice :=
    f.mapError_call trimmed (fun _ => rfl) rfl
  have answered : reply = Session.replyWith settings
      ((f.call t).mapError ArgumentError.advice) := by
    rw [← advices]
    exact Session.reply_of_call (Session.isExit_word blank cased content) calls settings
  refine ⟨⟨_, calls, kinds⟩, ?_, ?_⟩
  · rw [answered]
    cases f.call t <;> rfl
  · rw [CommandLine.effect?_call, CommandLine.runCall_eq_ofReply, ← answered]
    rfl

/-- The name in mixed case behind blanks of two kinds, with blanks at both ends of the argument. -/
theorem reply_and_call_of_sixteen :
    let front := ['\u00A0', '\t']
    let word := "SqRt".toList
    let t := " 16f \t".toList
    let line := front ++ word ++ ' ' :: t
    let reply := Session.reply {} line
    ((∀ a ∈ front, Text.isBlank a = true) ∧ word.map Char.toLower = NamedFunction.sqrt.name.toList ∧
      (∃ a ∈ t, Text.isBlank a = false) ∧ ∀ a ∈ t.rtakeWhile Text.isBlank, Text.isLow a = true) ∧
    reply = .answer "🎉 The answer is: 4.0" ∧
    (∃ argument, Session.call? line = some (.sqrt, argument) ∧
      (NamedFunction.sqrt.call argument).mapError ArgumentError.kind =
        (NamedFunction.sqrt.call t).mapError ArgumentError.kind) ∧
    reply.done = false ∧
    CommandLine.effect? {} [] ["sqrt".toList, "--".toList, t] =
      some (if reply.ok then { exitCode := 0, stdout := reply.text ++ "\n", stderr := "" }
        else { exitCode := 1, stdout := "", stderr := reply.text ++ "\n" }) := by
  intro front word t line reply
  have blank : ∀ a ∈ front, Text.isBlank a = true := by
    simp only [front, List.forall_mem_cons, List.not_mem_nil, false_implies, implies_true, and_true]
    decide
  have cased : word.map Char.toLower = NamedFunction.sqrt.name.toList := by decide
  have content : ∃ a ∈ t, Text.isBlank a = false := ⟨'6', by decide, by decide⟩
  have ending : t.rtakeWhile Text.isBlank = [' ', '\t'] := by decide
  have low : ∀ a ∈ t.rtakeWhile Text.isBlank, Text.isLow a = true := by
    simp only [ending, List.forall_mem_cons, List.not_mem_nil, false_implies, implies_true,
      and_true]
    decide
  have answered : reply = .answer "🎉 The answer is: 4.0" := by decide +kernel
  exact ⟨⟨blank, cased, content, low⟩, answered, reply_and_call {} [] .sqrt blank cased content low⟩

end Calculator
