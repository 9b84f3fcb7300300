import Calculator.Json.Basic
import Calculator.Text.Hex
import Calculator.Text.Quoted

namespace Calculator.Json

/-- Which characters may stand in a string. -/
inductive Alphabet where
  | ascii
  | unicode
deriving DecidableEq, Repr

open Text (backslash quotationMark hex)

/-- One UTF-16 unit. -/
def escapeUnit (n : Nat) : Text :=
  backslash :: 'u' :: hex 4 n

/-- A character as one unit or as two surrogates. -/
def escapeUnits (n : Nat) : Text :=
  if n < 0x10000 then escapeUnit n
  else escapeUnit (0xD800 + (n - 0x10000) / 0x400) ++ escapeUnit (0xDC00 + (n - 0x10000) % 0x400)

/-- The quotation mark, the backslash and the control characters below the space are escaped; the
ASCII form escapes every character beyond the tilde as well. -/
def escapeChar (alphabet : Alphabet) (c : Char) : Text :=
  if c = quotationMark then [backslash, quotationMark]
  else if c = backslash then [backslash, backslash]
  else if c = '\n' then [backslash, 'n']
  else if c = '\r' then [backslash, 'r']
  else if c = '\t' then [backslash, 't']
  else if c = '\x0c' then [backslash, 'f']
  else if c = '\x08' then [backslash, 'b']
  else if c.toNat < 0x20 then escapeUnit c.toNat
  else if c.toNat < 0x7F ∨ alphabet = .unicode then [c]
  else escapeUnits c.toNat

def writeString (alphabet : Alphabet) (t : Text) : Text :=
  quotationMark :: t.flatMap (escapeChar alphabet) ++ [quotationMark]

/-- The start of a line at a depth. -/
def newLine (depth : Nat) : Text :=
  '\n' :: List.replicate (2 * depth) ' '

mutual

/-- The text of a value at a depth. Each field of an object and each item of an array has a line of
its own, two spaces further in than the whole. -/
def writeAt (alphabet : Alphabet) (depth : Nat) : Json → Text
  | null => "null".toList
  | bool true => "true".toList
  | bool false => "false".toList
  | number text => text
  | string text => writeString alphabet text
  | array items =>
    if items.isEmpty then ['[', ']']
    else '[' :: writeItems alphabet (depth + 1) items ++ newLine depth ++ [']']
  | object fields =>
    if fields.isEmpty then ['\x7b', '\x7d']
    else '\x7b' :: writeFields alphabet (depth + 1) fields ++ newLine depth ++ ['\x7d']

/-- The items of an array, with a comma between two. -/
def writeItems (alphabet : Alphabet) (depth : Nat) : List Json → Text
  | [] => []
  | item :: items =>
    newLine depth ++ writeAt alphabet depth item ++ (if items.isEmpty then [] else [',']) ++
      writeItems alphabet depth items

/-- The fields of an object, with a comma between two. -/
def writeFields (alphabet : Alphabet) (depth : Nat) : List (Text × Json) → Text
  | [] => []
  | (name, value) :: fields =>
    newLine depth ++ writeString alphabet name ++ [':', ' '] ++ writeAt alphabet depth value ++
      (if fields.isEmpty then [] else [',']) ++ writeFields alphabet depth fields

end

def write (alphabet : Alphabet) (j : Json) : Text :=
  j.writeAt alphabet 0

end Calculator.Json
