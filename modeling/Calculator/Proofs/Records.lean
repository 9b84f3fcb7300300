import Calculator.CommandLine
import Calculator.Proofs.JsonText

/-!
The record of an evaluation is read back as an object that says all of it. The flags of `eval`
choose where the same evaluation is shown and with how many words.
-/

namespace Calculator

namespace Json

/-- A double gives a number of JSON or a string. -/
theorem wellFormed_ofFloat (x : Float) : (ofFloat x).WellFormed := by
  unfold ofFloat
  by_cases finite : (Numeral.ofFloat x).isFinite = true
  · rw [if_pos finite]
    exact .number (Numeral.isNumber_write finite .short)
  · rw [if_neg finite]
    exact .string _

end Json

theorem ParseError.wellFormed_toJson (e : ParseError) : e.toJson.WellFormed := by
  refine .object ?_
  intro field member
  simp only [List.mem_cons, List.not_mem_nil, or_false] at member
  rcases member with rfl | rfl | rfl
  · exact .string _
  · exact .string _
  · exact .number (Json.isNumber_toDigits e.position)

namespace Evaluation

theorem wellFormed_toJson (e : Evaluation) : e.toJson.WellFormed := by
  refine .object ?_
  intro field member
  simp only [List.mem_cons, List.not_mem_nil, or_false] at member
  obtain ⟨t, outcome⟩ := e
  rcases member with rfl | rfl | rfl | rfl
  · exact .string t
  · exact .bool _
  · cases outcome with
    | ok x => exact Json.wellFormed_ofFloat x
    | error error => exact .null
  · cases outcome with
    | ok x => exact .null
    | error error => exact error.wellFormed_toJson

/-- The record stands for the evaluation in either alphabet, also with blanks behind it. -/
theorem read?_toJson_append (e : Evaluation) (alphabet : Json.Alphabet) {blanks : Text}
    (blank : ∀ c ∈ blanks, Json.isBlank c = true) :
    Json.read? (e.toJson.write alphabet ++ blanks) = some e.toJson :=
  Json.read?_write_append e.wellFormed_toJson blank

theorem read?_toJson (e : Evaluation) (alphabet : Json.Alphabet) :
    Json.read? (e.toJson.write alphabet) = some e.toJson := by
  have back := e.read?_toJson_append alphabet (List.forall_mem_nil _)
  rwa [List.append_nil] at back

end Evaluation

/-- The record is in ASCII and says four things in their order: the text as it was typed, whether it
has a value, the value, and what is wrong with the text. Of the last two one is null. -/
theorem read?_record (t : Text) :
    let record := (Evaluation.ofText t).toJson.write .ascii
    (∀ c ∈ record, c.toNat < 128) ∧
      ∃ ok value error,
        Json.read? record = some (.object
          [("expression".toList, .string t), ("ok".toList, .bool ok), ("value".toList, value),
            ("error".toList, error)]) ∧
        match (evaluate t : Except ParseError Float) with
        | .ok x =>
          ok = true ∧ error = .null ∧
            value = if x.isFinite then .number (NumberWords.short.write x)
              else .string (if x.isNaN then "nan".toList else if 0 < x then "inf".toList
                else "-inf".toList)
        | .error e =>
          ok = false ∧ value = .null ∧
            error = .object
              [("kind".toList, .string e.kind.word.toList),
                ("message".toList, .string e.message.toList),
                ("position".toList, .number (Nat.toDigits 10 e.position))] := by
  intro record
  have read : Json.read? record = some (Evaluation.ofText t).toJson :=
    (Evaluation.ofText t).read?_toJson .ascii
  refine ⟨?_, ?_⟩
  · intro c member
    exact Json.ascii_of_mem_writeAt (Evaluation.ofText t).wellFormed_toJson 0 c member
  rw [read]
  refine ⟨_, _, _, rfl, ?_⟩
  unfold Evaluation.ofText
  cases (evaluate t : Except ParseError Float) with
  | ok x => exact ⟨rfl, rfl, Json.ofFloat_eq x⟩
  | error e => exact ⟨rfl, rfl, rfl⟩

/-! ## The flags of `eval` -/

namespace CommandLine

open Text.Markup

/-- The tags around the expression are not shown, and a text without markup is shown as it is. -/
theorem inputLine_of_isPlain {t : Text} (plain : IsPlain (Text.strip t)) :
    inputLine t = "  Input: " ++ String.ofList (Text.strip t) ++ "\n" := by
  have opened (u : Text) : display ("  [dim]Input: ".toList ++ u) =
      "  Input: ".toList ++ displayTags 0 false u := rfl
  have closed : displayTags 0 false "[/dim]".toList = [] := by decide
  unfold inputLine
  rw [escape_of_isPlain plain, List.append_assoc, opened, displayTags_append_of_isPlain plain,
    closed, List.append_nil, String.ofList_append]
  rfl

/-- The line with the record. -/
def recordLine (t : Text) : String :=
  Terminal.line (String.ofList ((Evaluation.ofText t).toJson.write .unicode))

/-- The line with the answer, if there is one. -/
def answerLine (settings : Settings) (t : Text) : String :=
  match (evaluate t : Except ParseError Float) with
  | .ok x => Terminal.line (answer settings x)
  | .error _ => ""

/-- The line with what is wrong, if anything is. -/
def adviceLine (t : Text) : String :=
  match (evaluate t : Except ParseError Float) with
  | .ok _ => ""
  | .error e => Terminal.line e.advice

/-- The line that tells the error apart from the others, if there is one. -/
def kindLine (t : Text) : String :=
  match (evaluate t : Except ParseError Float) with
  | .ok _ => ""
  | .error e => errorLine e

/-- Each stream is made of some of these lines, which the flags choose. -/
theorem runEval_eq (settings : Settings) (t : Text) (json verbose : Bool) :
    runEval settings t json verbose =
      { exitCode := if (Evaluation.ofText t).ok then 0 else 1
        stdout := if json then recordLine t else answerLine settings t
        stderr := (if verbose then inputLine t else "") ++ (if json then "" else adviceLine t) ++
          if verbose then kindLine t else "" } := by
  unfold runEval recordLine answerLine adviceLine kindLine Evaluation.ok Evaluation.ofText
  cases (evaluate t : Except ParseError Float) with
  | ok x => simp
  | error e => simp

theorem answerLine_eq_empty_iff {settings : Settings} {t : Text} :
    answerLine settings t = "" ↔ (Evaluation.ofText t).ok = false := by
  unfold answerLine Evaluation.ok Evaluation.ofText
  cases (evaluate t : Except ParseError Float) <;> simp [Terminal.line]

theorem adviceLine_of_ok {t : Text} (succeeds : (Evaluation.ofText t).ok = true) :
    adviceLine t = "" := by
  unfold adviceLine
  unfold Evaluation.ok Evaluation.ofText at succeeds
  cases outcome : (evaluate t : Except ParseError Float) with
  | ok x => rfl
  | error e => rw [outcome] at succeeds; cases succeeds

/-- The record is read back from its line, the line feed apart. -/
theorem read?_recordLine (t : Text) :
    Json.read? (recordLine t).toList = some (Evaluation.ofText t).toJson := by
  have lineFeed : ∀ c ∈ ['\n'], Json.isBlank c = true := by
    intro c member
    rw [List.mem_singleton.1 member]
    decide
  rw [recordLine, Terminal.line, String.toList_append, String.toList_ofList]
  exact (Evaluation.ofText t).read?_toJson_append .unicode lineFeed

/-- The arguments that ask for an evaluation, with each flag or without it. -/
def evalArguments (json verbose : Bool) (t : Text) : List Text :=
  "eval".toList :: (if json then ["--json".toList] else []) ++
    (if verbose then ["--verbose".toList] else []) ++ ["--".toList, t]

theorem ofArguments?_evalArguments (json verbose : Bool) (t : Text) :
    ofArguments? (evalArguments json verbose t) = some (.eval t json verbose) := by
  cases json <;> cases verbose <;> rfl

/-- The flags choose what is shown of an evaluation and where: `json` puts the record in place of
the answer and takes the advice away, `verbose` adds a line before everything else and, after an
error, a line behind it. -/
structure FlagsChoose (t : Text) (effect : Environment → (json verbose : Bool) → Effect) :
    Prop where
  exitCode (environment : Environment) (json verbose : Bool) :
    (effect environment json verbose).exitCode = if (Evaluation.ofText t).ok then 0 else 1
  stdout_verbose (environment : Environment) (json : Bool) :
    (effect environment json true).stdout = (effect environment json false).stdout
  /-- The record is shown, whatever the settings. -/
  stdout_json (environment : Environment) (verbose : Bool) :
    ∃ record, Json.read? ((Evaluation.ofText t).toJson.write .ascii) = some record ∧
      Json.read? (effect environment true verbose).stdout.toList = some record
  stdout_environment (environment other : Environment) (verbose : Bool) :
    (effect environment true verbose).stdout = (effect other true verbose).stdout
  stdout_eq_empty_iff (environment : Environment) (verbose : Bool) :
    (effect environment false verbose).stdout = "" ↔ (Evaluation.ofText t).ok = false
  stderr_verbose (environment : Environment) (json : Bool) :
    (effect environment json true).stderr =
      inputLine t ++ (effect environment json false).stderr ++
        match (evaluate t : Except ParseError Float) with
        | .ok _ => ""
        | .error e => "  " ++ e.kind.word ++ ": " ++ e.message ++ "\n"
  /-- Of a text that the terminal shows otherwise nothing is said. -/
  inputLine_eq : IsVerbatim (Text.strip t) →
    inputLine t = "  Input: " ++ String.ofList (Text.strip t) ++ "\n"
  stderr_json (environment : Environment) : (effect environment true false).stderr = ""
  stderr_ok (environment : Environment) (json : Bool) :
    (Evaluation.ofText t).ok = true → (effect environment json false).stderr = ""

/-- The exit code does not depend on the flags, and the standard output depends on one of them only.
-/
theorem flagsChoose_eval (t : Text) :
    ∃ effect : Environment → Bool → Bool → Effect,
      (∀ environment stdin json verbose,
        (ofArguments? (evalArguments json verbose t)).map
          (run (.ofEnvironment environment) stdin) = some (effect environment json verbose)) ∧
      FlagsChoose t effect := by
  refine ⟨fun environment => runEval (.ofEnvironment environment) t, ?_, ?_⟩
  · intro environment stdin json verbose
    rw [ofArguments?_evalArguments]
    rfl
  constructor
  case exitCode =>
    intro environment json verbose
    rw [runEval_eq]
  case stdout_verbose =>
    intro environment json
    rw [runEval_eq, runEval_eq]
  case stdout_json =>
    intro environment verbose
    refine ⟨_, (Evaluation.ofText t).read?_toJson .ascii, ?_⟩
    rw [runEval_eq]
    exact read?_recordLine t
  case stdout_environment =>
    intro environment other verbose
    rw [runEval_eq, runEval_eq]
    rfl
  case stdout_eq_empty_iff =>
    intro environment verbose
    rw [runEval_eq]
    exact answerLine_eq_empty_iff
  case stderr_verbose =>
    intro environment json
    rw [runEval_eq, runEval_eq]
    simp only [kindLine, Bool.false_eq_true, ↓reduceIte, String.empty_append, String.append_empty]
    rfl
  case inputLine_eq => exact fun verbatim => inputLine_of_isPlain verbatim.isPlain
  case stderr_json =>
    intro environment
    rw [runEval_eq]
    rfl
  case stderr_ok =>
    intro environment json succeeds
    rw [runEval_eq, adviceLine_of_ok succeeds]
    simp

end CommandLine

end Calculator
