import Calculator.Proofs.Commands
import Calculator.Proofs.JsonNumbers

/-!
A session asks for its lines up to the first that is the word `exit`, or once more than there are,
and says one message each time. The command `repl` shows this session over the lines of the standard
input, with the prompts between the messages.
-/

namespace Calculator

open Text.Markup

/-- The message takes one line and is not the farewell. -/
structure IsNews (message : String) : Prop where
  oneLine : '\n' ∉ message.toList
  ne_farewell : message ≠ Reply.farewell.text

/-- A number takes one line, if the words for what has no digits do. -/
theorem lineFeed_notMem_write (words : NumberWords) (x : Float)
    (notANumber : '\n' ∉ words.notANumber) (infinity : '\n' ∉ words.infinity) :
    '\n' ∉ words.write x := by
  by_cases finite : x.isFinite = true
  · have number : Json.isNumber (words.write x) = true :=
      Numeral.isNumber_write ((Numeral.isFinite_ofFloat x).trans finite) words
    intro member
    exact absurd (Json.isNumeric_of_isNumber number _ member) (by decide)
  · rw [NumberWords.write_of_not_isFinite (Bool.eq_false_iff.2 finite)]
    split
    · exact notANumber
    split
    · exact infinity
    · simpa using infinity

theorem isNews_answer (settings : Settings) (x : Float) : IsNews (answer settings x) := by
  have number : '\n' ∉ NumberWords.long.write x :=
    lineFeed_notMem_write .long x (by decide) (by decide)
  unfold answer
  constructor
  · cases settings.emoji <;> simp [number]
  · intro same
    have first := congrArg (fun message => message.toList.head?) same
    revert first
    cases settings.emoji
    · simp [Reply.text]
    · simp [Reply.text]

theorem ParseError.isNews_advice (e : ParseError) : IsNews e.advice := by
  cases e with
  | mismatchedParentheses =>
    change IsNews (mismatchedParentheses 0 none).advice
    constructor <;> decide +kernel
  | unexpectedCharacter =>
    change IsNews (unexpectedCharacter 0 none).advice
    constructor <;> decide +kernel
  | invalidNumberLiteral =>
    change IsNews (invalidNumberLiteral [] 0).advice
    constructor <;> decide +kernel

/-- An error of a call names the function that was called. -/
theorem NamedFunction.function_of_call {f : NamedFunction} {t : Text} {e : ArgumentError}
    (failed : f.call t = .error e) : e.function = f.name := by
  rw [call_eq] at failed
  cases typed : Numeral.readArgument? (Text.trim Text.isLow t) with
  | none =>
    rw [typed] at failed
    cases failed
    rfl
  | some n =>
    simp only [typed] at failed
    cases f with
    | sqrt =>
      cases root : sqrt.value? n.toFloat with
      | none => simp only [root] at failed; cases failed; rfl
      | some y => simp only [root] at failed; cases failed
    | pow2 => cases failed
    | cube => cases failed

theorem ArgumentError.isNews_advice {e : ArgumentError} {f : NamedFunction}
    (called : e.function = f.name) : IsNews e.advice := by
  cases e with
  | notANumber function argument =>
    have named : function = f.name := called
    subst named
    cases f <;> constructor <;> simp [advice, NamedFunction.name, Reply.text]
  | negativeRadicand argument => constructor <;> simp [advice, Reply.text]

namespace Session

variable {settings : Settings} {line : Text} {lines : List Text}

theorem isNews_replyWith {ε : Type} {advice : ε → String} {outcome : Except ε Float}
    (news : ∀ e, outcome = .error e → IsNews (advice e)) :
    IsNews (replyWith settings (outcome.mapError advice)).text := by
  cases outcome with
  | ok x => exact isNews_answer settings x
  | error e => exact news e rfl

/-- Every reply but the farewell is news. -/
theorem isNews_reply (stays : isExit line = false) (settings : Settings) :
    IsNews (reply settings line).text := by
  cases calls : call? line with
  | some call =>
    obtain ⟨f, argument⟩ := call
    rw [reply_of_call stays calls]
    refine isNews_replyWith fun e called => ?_
    exact ArgumentError.isNews_advice (NamedFunction.function_of_call called)
  | none =>
    have other : isCommand line = false := by simp [isCommand, stays, calls]
    rw [reply_of_not_isCommand other]
    exact isNews_replyWith fun e _ => e.isNews_advice

theorem reply_of_isExit (exits : isExit line = true) (settings : Settings) :
    reply settings line = .farewell := by
  rw [reply, if_pos exits]

/-- Only the word that ends the session is answered by the farewell. -/
theorem done_reply (settings : Settings) (line : Text) :
    (reply settings line).done = isExit line := by
  cases exits : isExit line with
  | true => rw [reply_of_isExit exits]; rfl
  | false =>
    have news := isNews_reply exits settings
    cases answered : reply settings line with
    | farewell => rw [answered] at news; exact absurd rfl news.ne_farewell
    | answer text => rfl
    | refusal text => rfl

/-- How many lines a session asks for: up to the first one that ends it, or one more than there
are. -/
def asked (lines : List Text) : Nat := lines.findIdx isExit + 1

/-- What is said, message by message. -/
def messages (events : List Event) : List String :=
  events.filterMap fun
    | .say text => some text
    | .ask _ => none

/-- What happens for a line. -/
def exchange (settings : Settings) (line : Text) : List Event :=
  (turn settings (some line)).2

/-- In every turn a line is asked for with the same prompt, and one message is said. -/
theorem events_turn (settings : Settings) (line? : Option Text) :
    (turn settings line?).2 =
      [.ask (escape settings.prompt), .say (respond settings line?).text] :=
  rfl

/-- What happens when the lines are used up, unless one of them has ended the session. -/
def ending (settings : Settings) (lines : List Text) : List Event :=
  if lines.any isExit then [] else (turn settings none).2

theorem replies_cons (settings : Settings) (line : Text) (lines : List Text) :
    replies settings (line :: lines) =
      if isExit line then (exchange settings line, lines)
      else (exchange settings line ++ (replies settings lines).1, (replies settings lines).2) := by
  have ends : (turn settings (some line)).1 = isExit line := done_reply settings line
  rw [← ends]
  rfl

theorem asked_cons (line : Text) (lines : List Text) :
    asked (line :: lines) = if isExit line then 1 else asked lines + 1 := by
  rw [asked, List.findIdx_cons]
  cases isExit line <;> rfl

/-- All that happens: a turn for every line that is asked for, and the farewell at the end of the
input. -/
theorem replies_eq (settings : Settings) (lines : List Text) :
    replies settings lines =
      ((lines.take (asked lines)).flatMap (exchange settings) ++ ending settings lines,
        lines.drop (asked lines)) := by
  induction lines with
  | nil => rfl
  | cons line lines ih =>
    rw [replies_cons, asked_cons]
    cases exits : isExit line with
    | true => simp [ending, exits]
    | false => simp [ending, exits, ih]

theorem messages_append (events later : List Event) :
    messages (events ++ later) = messages events ++ messages later :=
  List.filterMap_append

theorem prompts_append (events later : List Event) :
    prompts (events ++ later) = prompts events ++ prompts later :=
  List.filterMap_append

theorem messages_exchanges (settings : Settings) (lines : List Text) :
    messages (lines.flatMap (exchange settings)) =
      lines.map fun line => (reply settings line).text := by
  induction lines with
  | nil => rfl
  | cons line lines ih =>
    rw [List.flatMap_cons, messages_append, ih]
    rfl

theorem prompts_exchanges (settings : Settings) (lines : List Text) :
    prompts (lines.flatMap (exchange settings)) =
      List.replicate lines.length (escape settings.prompt) := by
  induction lines with
  | nil => rfl
  | cons line lines ih =>
    rw [List.flatMap_cons, prompts_append, ih]
    rfl

/-- Prompts are not said. -/
theorem said_eq (events : List Event) :
    said events = String.join ((messages events).map (· ++ "\n")) := by
  unfold said messages
  induction events with
  | nil => rfl
  | cons event events ih =>
    cases event with
    | say text =>
      simp only [List.map_cons, List.filterMap_cons, String.join_cons, ih]
      rfl
    | ask prompt => simp [String.join_cons, ih]

/-- In either way a session ends with the farewell. -/
theorem messages_replies (settings : Settings) (lines : List Text) :
    messages (replies settings lines).1 =
      ((lines.take (lines.findIdx isExit)).map fun line => (reply settings line).text) ++
        [Reply.farewell.text] := by
  induction lines with
  | nil => rfl
  | cons line lines ih =>
    rw [replies_cons, List.findIdx_cons]
    cases exits : isExit line with
    | true => simp [messages, exchange, events_turn, respond, reply_of_isExit exits]
    | false =>
      have first : messages (exchange settings line) = [(reply settings line).text] := rfl
      simp [messages_append, first, ih]

theorem asked_of_any (exits : lines.any isExit = true) : asked lines ≤ lines.length :=
  List.findIdx_lt_length.2 (List.any_eq_true.1 exits)

theorem asked_of_not_any (stays : lines.any isExit = false) : asked lines = lines.length + 1 := by
  rw [asked, List.findIdx_eq_length.2]
  simpa using stays

/-- There is one prompt for every line that is asked for, and it is always the same. -/
theorem prompts_replies (settings : Settings) (lines : List Text) :
    prompts (replies settings lines).1 =
      List.replicate (asked lines) (escape settings.prompt) := by
  rw [replies_eq, prompts_append, prompts_exchanges, List.length_take, ending]
  cases exits : lines.any isExit with
  | true =>
    rw [Nat.min_eq_left (asked_of_any exits)]
    exact List.append_nil _
  | false =>
    rw [asked_of_not_any exits, Nat.min_eq_right (Nat.le_succ _)]
    exact List.replicate_succ'.symm

theorem isNews_opening {message : String} (opening : message ∈ [greeting, usage]) :
    IsNews message := by
  rcases List.mem_pair.1 opening with rfl | rfl
  · constructor <;> decide +kernel
  · constructor <;> decide +kernel

theorem isNews_of_mem_take (settings : Settings)
    (before : line ∈ lines.take (lines.findIdx isExit)) : IsNews (reply settings line).text := by
  obtain ⟨index, bound, rfl⟩ := List.mem_take_iff_getElem.1 before
  have earlier : index < lines.findIdx isExit := by omega
  exact isNews_reply (List.not_of_lt_findIdx earlier) settings

/-- Whatever is said before the farewell is news. -/
theorem exists_messages_run (settings : Settings) (lines : List Text) :
    ∃ news, messages (run settings lines).1 = news ++ ["Goodbye!"] ∧
      ∀ message ∈ news, IsNews message := by
  have spoken : messages (run settings lines).1 =
      [greeting, usage] ++ messages (replies settings lines).1 := rfl
  rw [messages_replies, ← List.append_assoc] at spoken
  refine ⟨_, spoken, ?_⟩
  intro message member
  rcases List.mem_append.1 member with opening | later
  · exact isNews_opening opening
  · obtain ⟨line, before, rfl⟩ := List.mem_map.1 later
    exact isNews_of_mem_take settings before

/-- A session greets, tells how it is used and replies to the lines it asks for; if none of them
ends it, it says the farewell all the same. Every message takes one line, and only the last is the
farewell. Each line is asked for with the same prompt, and the lines behind them stay unread. -/
theorem run_transcript (environment : Environment) (lines : List Text) :
    let settings := Settings.ofEnvironment environment
    let events := (run settings lines).1
    let replied := (lines.take (asked lines)).map fun line => (reply settings line).text
    messages events =
        [greeting, usage] ++ replied ++ (if lines.any isExit then [] else ["Goodbye!"]) ∧
      said events = String.join ((messages events).map (· ++ "\n")) ∧
      (∀ message ∈ messages events, '\n' ∉ message.toList) ∧
      (messages events).getLast? = some "Goodbye!" ∧ (messages events).count "Goodbye!" = 1 ∧
      prompts events = List.replicate (asked lines) (escape settings.prompt) ∧
      (run settings lines).2 = lines.drop (asked lines) := by
  intro settings events replied
  obtain ⟨news, spoken, isNews⟩ := exists_messages_run settings lines
  have once : "Goodbye!" ∉ news := fun member => (isNews _ member).ne_farewell rfl
  have closing : messages (ending settings lines) =
      if lines.any isExit then [] else ["Goodbye!"] := by
    unfold ending
    split <;> rfl
  refine ⟨?_, said_eq events, ?_, ?_, ?_, prompts_replies settings lines, ?_⟩
  · change [greeting, usage] ++ messages (replies settings lines).1 = _
    rw [replies_eq, messages_append, messages_exchanges, closing, List.append_assoc]
  · intro message member
    rw [spoken] at member
    rcases List.mem_append.1 member with earlier | last
    · exact (isNews message earlier).oneLine
    · rw [List.mem_singleton.1 last]
      decide
  · rw [spoken, List.getLast?_concat]
  · rw [spoken, List.count_append, List.count_eq_zero.2 once]
    rfl
  · change (replies settings lines).2 = _
    rw [replies_eq]

/-! ## What a terminal shows -/

/-- What is said, with the prompt wherever a line is asked for. -/
def interleaved (prompt : String) (events : List Event) : String :=
  String.join (events.map fun
    | .ask _ => prompt
    | .say text => text ++ "\n")

theorem interleaved_append (prompt : String) (events later : List Event) :
    interleaved prompt (events ++ later) =
      interleaved prompt events ++ interleaved prompt later := by
  rw [interleaved, List.map_append, String.join_append]
  rfl

theorem interleaved_exchanges (prompt : String) (settings : Settings) (lines : List Text) :
    interleaved prompt (lines.flatMap (exchange settings)) =
      String.join (lines.map fun line => prompt ++ (reply settings line).text ++ "\n") := by
  induction lines with
  | nil => rfl
  | cons line lines ih =>
    rw [List.flatMap_cons, interleaved_append, ih, List.map_cons, String.join_cons]
    simp [interleaved, exchange, events_turn, respond, String.join_cons, String.append_assoc]

theorem interleaved_run (prompt : String) (settings : Settings) (lines : List Text) :
    interleaved prompt (run settings lines).1 =
      greeting ++ "\n" ++ usage ++ "\n" ++
        String.join ((lines.take (asked lines)).map fun line =>
          prompt ++ (reply settings line).text ++ "\n") ++
        if lines.any isExit then "" else prompt ++ "Goodbye!" ++ "\n" := by
  have opening (events : List Event) :
      interleaved prompt (.say greeting :: .say usage :: events) =
        greeting ++ "\n" ++ usage ++ "\n" ++ interleaved prompt events := by
    simp only [interleaved, List.map_cons, String.join_cons, String.append_assoc]
  have closing : interleaved prompt (ending settings lines) =
      if lines.any isExit then "" else prompt ++ "Goodbye!" ++ "\n" := by
    unfold ending
    split
    · rfl
    · simp [interleaved, events_turn, respond, Reply.text, String.join_cons, String.append_assoc]
  change interleaved prompt (_ :: _ :: (replies settings lines).1) = _
  rw [opening, replies_eq, interleaved_append, interleaved_exchanges, closing, ← String.append_assoc]

/-- There is nothing for `display` to take away from a prompt without markup. -/
theorem shown_run (plain : IsPlain settings.prompt) (lines : List Text) :
    shown (run settings lines).1 =
      interleaved (String.ofList settings.prompt) (run settings lines).1 := by
  have same : ∀ asks ∈ prompts (run settings lines).1, asks = escape settings.prompt := by
    intro asks member
    change asks ∈ prompts (replies settings lines).1 at member
    rw [prompts_replies] at member
    exact List.eq_of_mem_replicate member
  unfold shown interleaved
  congr 1
  refine List.map_congr_left fun event member => ?_
  cases event with
  | say text => rfl
  | ask asks =>
    have asked : asks ∈ prompts (run settings lines).1 :=
      List.mem_filterMap.2 ⟨.ask asks, member, rfl⟩
    simp only [Event.shown, same asks asked, display_escape_of_isPlain plain]

/-- What stands behind a line that ends the session changes nothing. -/
theorem run_append (exits : lines.any isExit = true) (settings : Settings) (more : List Text) :
    (run settings (lines ++ more)).1 = (run settings lines).1 := by
  have inside : asked lines ≤ lines.length := asked_of_any exits
  have same : asked (lines ++ more) = asked lines := by
    rw [asked, List.findIdx_append, if_pos (Nat.lt_of_succ_le inside), asked]
  have ends : ending settings (lines ++ more) = ending settings lines := by
    rw [ending, ending, List.any_append, exits, Bool.true_or]
  unfold run
  rw [replies_eq, replies_eq, same, List.take_append_of_le_length inside, ends]

end Session

namespace CommandLine

open Session

/-- The pieces between the line feeds of a text, without the last one if it is empty. -/
def served (t : Text) : List Text :=
  let pieces := t.splitOn '\n'
  if pieces.getLast? = some [] then pieces.dropLast else pieces

/-- What stands before a line feed is cut apart from what stands behind it. -/
theorem served_append_lineFeed (s t : Text) :
    served (s ++ '\n' :: t) = s.splitOn '\n' ++ served t := by
  have nonempty : t.splitOn '\n' ≠ [] := List.splitOn_ne_nil '\n' t
  simp only [served, List.splitOn_append_cons_self, List.getLast?_append_of_ne_nil _ nonempty,
    List.dropLast_append_of_ne_nil nonempty]
  split <;> rfl

theorem served_cons {c : Char} (other : c ≠ '\n') (t : Text) :
    served (c :: t) =
      match served t with
      | [] => [[c]]
      | line :: rest => (c :: line) :: rest := by
  have pieces : (c :: t).splitOn '\n' = (t.splitOn '\n').modifyHead (c :: ·) := by
    rw [List.splitOn_cons_eq_if_modifyHead, if_neg (by simpa using other)]
  rw [served, served, pieces]
  obtain ⟨piece, rest, cut⟩ := List.exists_cons_of_ne_nil (List.splitOn_ne_nil '\n' t)
  rw [cut, List.modifyHead_cons]
  -- Only a piece that is both the first and the last can have been left out.
  cases rest with
  | nil => cases piece <;> rfl
  | cons next rest =>
    simp only [List.getLast?_cons_cons, List.dropLast_cons_cons]
    split <;> rfl

/-- The lines of the input are its pieces between line feeds. -/
theorem lines_eq_served (t : Text) : lines t = served t := by
  induction t with
  | nil => rfl
  | cons c t ih =>
    by_cases lineFeed : c = '\n'
    · subst lineFeed
      have cut := served_append_lineFeed [] t
      rw [List.splitOn_nil, ← ih] at cut
      exact cut.symm
    · have cut := served_cons lineFeed t
      rw [← ih] at cut
      exact (lines.eq_3 c t lineFeed).trans cut.symm

/-- What stands behind a line feed adds its own lines. -/
theorem served_append {s : Text} (ended : s.getLast? = some '\n') (t : Text) :
    served (s ++ t) = served s ++ served t := by
  obtain ⟨front, rfl⟩ := List.getLast?_eq_some_iff.1 ended
  rw [List.append_assoc, List.cons_append, List.nil_append, served_append_lineFeed,
    served_append_lineFeed]
  exact congrArg (· ++ served t) (List.append_nil _).symm

end CommandLine

/-- The command `repl` cuts the standard input into lines and shows the session over them, with the
prompt as it is set before every message but the first two. Whatever stands behind the line that
ends the session is not looked at. -/
theorem repl_transcript (environment : Environment)
    (plain : ∀ c ∈ (Settings.ofEnvironment environment).prompt,
      c ≠ '[' ∧ c ≠ Text.backslash ∧ c ≠ ':') (stdin : Text) :
    let settings := Settings.ofEnvironment environment
    let prompt := String.ofList settings.prompt
    let lines := CommandLine.served stdin
    let effect? (stdin : Text) := CommandLine.effect? settings stdin ["repl".toList]
    let transcript := Session.greeting ++ "\n" ++ Session.usage ++ "\n" ++
      String.join ((lines.take (Session.asked lines)).map fun line =>
        prompt ++ (Session.reply settings line).text ++ "\n") ++
      if lines.any Session.isExit then "" else prompt ++ "Goodbye!" ++ "\n"
    effect? stdin = some { exitCode := 0, stdout := transcript, stderr := "" } ∧
      transcript = Session.interleaved prompt (Session.run settings lines).1 ∧
      (stdin.getLast? = some '\n' → lines.any Session.isExit = true →
        ∀ more, effect? (stdin ++ more) = effect? stdin) := by
  intro settings prompt lines effect? transcript
  have isPlain : IsPlain settings.prompt := fun c member =>
    ⟨(plain c member).1, (plain c member).2.1⟩
  have shows (input : Text) : effect? input = some
      { stdout := Session.interleaved prompt
          (Session.run settings (CommandLine.served input)).1 } := by
    rw [← Session.shown_run isPlain, ← CommandLine.lines_eq_served]
    rfl
  have whole : transcript = Session.interleaved prompt (Session.run settings lines).1 :=
    (Session.interleaved_run prompt settings lines).symm
  refine ⟨?_, whole, ?_⟩
  · rw [shows, whole]
  · intro ended exits more
    rw [shows, shows, CommandLine.served_append ended, Session.run_append exits]

/-- A prompt of its own, a line in between that is refused, and text behind the line `Exit`. -/
theorem repl_transcript_exit :
    let environment : Environment := fun name =>
      if name = "MADCALC_PROMPT" then some "? " else none
    let settings := Settings.ofEnvironment environment
    let stdin := "1+1\n\n Exit\n".toList
    (∀ c ∈ settings.prompt, c ≠ '[' ∧ c ≠ Text.backslash ∧ c ≠ ':') ∧
    CommandLine.served stdin = ["1+1".toList, [], " Exit".toList] ∧
    ∀ more, CommandLine.effect? settings (stdin ++ more) ["repl".toList] =
      some {
        exitCode := 0
        stdout := Session.greeting ++ "\n" ++ Session.usage ++ "\n" ++
          "? 🎉 The answer is: 2.0\n" ++
          "? Hmm, I see something I don't understand. Please use only numbers, " ++
          "+, -, *, /, parentheses, square root (sqrt), power of two (pow2), " ++
          "and cube (cube) operations.\n" ++ "? Goodbye!\n"
        stderr := "" } := by
  intro environment settings stdin
  have plain : ∀ c ∈ settings.prompt, c ≠ '[' ∧ c ≠ Text.backslash ∧ c ≠ ':' := by
    have prompt : settings.prompt = ['?', ' '] := by
      simp [settings, environment, Settings.ofEnvironment]
    simp [prompt, Text.backslash]
  obtain ⟨effect, -, unread⟩ := repl_transcript environment plain stdin
  have cut : CommandLine.served stdin = ["1+1".toList, [], " Exit".toList] := by
    decide +kernel
  have exits : (CommandLine.served stdin).any Session.isExit = true := by
    rw [cut]
    decide
  refine ⟨plain, cut, fun more => ?_⟩
  refine ((unread (by decide) exits more).trans effect).trans ?_
  rw [cut]
  decide +kernel

end Calculator
