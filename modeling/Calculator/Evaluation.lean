import Calculator.Expression.Evaluate
import Calculator.Json.Printer

namespace Calculator

/-- An expression with its value or its error. -/
structure Evaluation where
  expression : Text
  outcome : Except ParseError Float

namespace Evaluation

def ofText (t : Text) : Evaluation := ⟨t, evaluate t⟩

/-- Whether the expression has a value. -/
def ok (e : Evaluation) : Bool :=
  match e.outcome with
  | .ok _ => true
  | .error _ => false

def value? (e : Evaluation) : Option Float := e.outcome.toOption

def error? (e : Evaluation) : Option ParseError :=
  match e.outcome with
  | .ok _ => none
  | .error error => some error

def kind? (e : Evaluation) : Option ErrorKind := e.error?.map ParseError.kind

end Evaluation

/-- The kind, the message and the position of an error as an object. -/
def ParseError.toJson (error : ParseError) : Json :=
  .object
    [("kind".toList, .string error.kind.word.toList),
     ("message".toList, .string error.message.toList),
     ("position".toList, .number (Nat.toDigits 10 error.position))]

/-- The record of an evaluation. It always has all four fields, and null for what there is not. -/
def Evaluation.toJson (e : Evaluation) : Json :=
  .object
    [("expression".toList, .string e.expression),
     ("ok".toList, .bool e.ok),
     ("value".toList, (e.value?.map Json.ofFloat).getD .null),
     ("error".toList, (e.error?.map ParseError.toJson).getD .null)]

end Calculator
