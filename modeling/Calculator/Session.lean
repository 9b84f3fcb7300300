import Calculator.Answer
import Calculator.Expression.Evaluate
import Calculator.Text.Markup

namespace Calculator

/-- What a session says to a line. -/
inductive Reply where
  | farewell
  | answer (text : String)
  | refusal (text : String)
deriving DecidableEq, Repr

namespace Reply

/-- The message that says the reply. -/
def text : Reply → String
  | farewell => "Goodbye!"
  | answer text => text
  | refusal text => text

/-- There was nothing wrong with the line. -/
def ok : Reply → Bool
  | refusal _ => false
  | _ => true

/-- The session is over. -/
def done : Reply → Bool
  | farewell => true
  | _ => false

end Reply

namespace Session

/-- The line ends the session: it is the word `exit`, in any case and with blanks around. -/
def isExit (line : Text) : Bool :=
  Text.lower (Text.trim Text.isBlank line) = "exit".toList

/-- The function that a trimmed line calls if it has a given lower-case form: the one with whose
name and a space this begins. The argument is cut out of the line itself. -/
def callAs? (stripped lowered : Text) : Option (NamedFunction × Text) :=
  (NamedFunction.all.find? fun f => (f.name.toList ++ [' ']).isPrefixOf lowered).map
    fun f => (f, stripped.drop (f.name.length + 1))

/-- The function that a line calls, in any case, with the argument behind the space. -/
def call? (line : Text) : Option (NamedFunction × Text) :=
  let stripped := Text.trim Text.isBlank line
  callAs? stripped (Text.lower stripped)

/-- The function that a line calls with its argument, or no function with the line as it is, if the
trimmed line has a given lower-case form. -/
def commandAs (line lowered : Text) : Option NamedFunction × Text :=
  match callAs? (Text.trim Text.isBlank line) lowered with
  | some (f, argument) => (some f, argument)
  | none => (none, line)

/-- The function that a line calls with its argument, or no function with the line as it is. -/
def command (line : Text) : Option NamedFunction × Text :=
  commandAs line (Text.lower (Text.trim Text.isBlank line))

/-- The reply with a value or with what is wrong. -/
def replyWith (settings : Settings) : Except String Float → Reply
  | .ok x => .answer (answer settings x)
  | .error advice => .refusal advice

/-- The reply to a line, which depends on nothing but the line and the settings. What calls no
function is an expression as a whole. -/
def reply (settings : Settings) (line : Text) : Reply :=
  if isExit line then .farewell
  else match command line with
    | (some f, argument) =>
      replyWith settings ((f.call argument).mapError ArgumentError.advice)
    | (none, expression) =>
      replyWith settings
        ((evaluate expression : Except ParseError Float).mapError ParseError.advice)

/-- The reply to a line, or to the end of the input. -/
def respond (settings : Settings) : (line? : Option Text) → Reply
  | some line => reply settings line
  | none => .farewell

/-- The first message of a session. -/
def greeting : String := "Welcome to Mad Calc!"

/-- The second message, which names what may be typed. -/
def usage : String :=
  "Enter a mathematical expression (with parentheses), 'sqrt <number>', " ++
    "'pow2 <number>', 'cube <number>', or type 'exit' to quit:"

/-- What happens in a session: a message is said, or a line is asked for. -/
inductive Event where
  | say (text : String)
  /-- Asks for a line with a prompt, which is markup. -/
  | ask (prompt : Text)
deriving DecidableEq, Repr

/-- What a terminal shows for an event, the line that is typed apart. -/
def Event.shown : Event → String
  | .say text => Terminal.line text
  | .ask prompt => String.ofList (Text.Markup.display prompt)

/-- What comes before the first line is asked for. -/
def opening : List Event := [.say greeting, .say usage]

/-- Asks for a line with the prompt as it is set. -/
def question (settings : Settings) : Event := .ask (Text.Markup.escape settings.prompt)

/-- One turn: a line is asked for and read, and the reply to it is said. Whether the session is over
then is the result. The events go wherever they are put, to a terminal or to a list of them. -/
def takeTurn {m : Type → Type} [Monad m] (settings : Settings) (put : Event → m Unit)
    (read : m (Option Text)) : m Bool := do
  put (question settings)
  let r := respond settings (← read)
  put (.say r.text)
  return r.done

/-- The events of one turn, behind which the session is over or not. -/
def turn (settings : Settings) (line? : Option Text) : Bool × List Event :=
  (takeTurn settings (fun event => modify (· ++ [event])) (pure line?) :
    StateM (List Event) Bool).run []

/-- What is said and asked for the lines to come, and the lines that stay unread. -/
def replies (settings : Settings) : (lines : List Text) → List Event × List Text
  | [] => ((turn settings none).2, [])
  | line :: lines =>
    let (ended, events) := turn settings (some line)
    if ended then (events, lines)
    else
      let (later, unread) := replies settings lines
      (events ++ later, unread)

/-- The events of a session over the lines it is given, and the lines that stay unread. -/
def run (settings : Settings) (lines : List Text) : List Event × List Text :=
  let (events, unread) := replies settings lines
  (opening ++ events, unread)

/-- The prompts with which the lines are asked for. -/
def prompts (events : List Event) : List Text :=
  events.filterMap fun
    | .ask prompt => some prompt
    | .say _ => none

/-- What is said, one message a line. -/
def said (events : List Event) : String :=
  String.join (events.map fun
    | .ask _ => ""
    | .say text => Terminal.line text)

/-- What a terminal shows of the session, the lines that are typed apart. -/
def shown (events : List Event) : String :=
  String.join (events.map Event.shown)

end Session

end Calculator
