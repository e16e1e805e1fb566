import Intake.Json.Basic
import Intake.Text.Quoted

/-!
# JSON text

The compact text of a value: no blanks, numbers as they were written, and in strings an escape for
quotes, backslashes and the characters below the space, whose short forms are used where there are
any.
-/

namespace Intake.Json

open Intake.Text Intake.Numeral

/-- How a character is written inside a string. -/
def escapeChar (c : Char) : List Char :=
  if c = '"' then ['\\', '"']
  else if c = '\\' then ['\\', '\\']
  else if c.toNat = 8 then ['\\', 'b']
  else if c.toNat = 9 then ['\\', 't']
  else if c.toNat = 10 then ['\\', 'n']
  else if c.toNat = 12 then ['\\', 'f']
  else if c.toNat = 13 then ['\\', 'r']
  else if c.toNat < 32 then
    ['\\', 'u', '0', '0', hexDigit (c.toNat / 16), hexDigit (c.toNat % 16)]
  else [c]

/-- The characters of a string's content. -/
def escape (cs : List Char) : List Char := cs.flatMap escapeChar

/-- The characters of a string between its quotes. -/
def stringChars (s : String) : List Char := '"' :: escape s.toList ++ ['"']

/-- The characters of a key and its colon. -/
def keyChars (key : String) : List Char := stringChars key ++ [':']

mutual

/-- The characters of a value. -/
def chars : Json → List Char
  | .null => "null".toList
  | .bool true => "true".toList
  | .bool false => "false".toList
  | .number n => n.chars
  | .string s => stringChars s
  | .array items => '[' :: itemsChars items ++ [']']
  | .object members => '\x7b' :: membersChars members ++ ['\x7d']

/-- The items of an array with commas between them. -/
def itemsChars : List Json → List Char
  | [] => []
  | [item] => item.chars
  | item :: rest => item.chars ++ ',' :: itemsChars rest

/-- The members of an object with commas between them. -/
def membersChars : List (String × Json) → List Char
  | [] => []
  | [(key, value)] => keyChars key ++ value.chars
  | (key, value) :: rest => keyChars key ++ value.chars ++ ',' :: membersChars rest

end

/-- The compact text of a value. -/
def text (value : Json) : String := String.ofList value.chars

end Intake.Json
