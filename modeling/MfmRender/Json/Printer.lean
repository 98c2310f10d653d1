/-
Writing JSON values.

`print` is the JSON text of a value, in ASCII, with a space after each comma
and colon.  `shown` is the text of a value inside a message, where the words
for truth, falsehood and nothing are capitalised and text stands in quotes.
-/
import MfmRender.Json.Basic
import MfmRender.Number.Shortest
import MfmRender.Text.Quoted

namespace MfmRender.Json

open Text (hexDigits)

/-- One character of a JSON text. -/
def printChar (c : Char) : List Char :=
  if c == '"' || c == '\\' then ['\\', c]
  else if c == '\n' then ['\\', 'n']
  else if c == '\r' then ['\\', 'r']
  else if c == '\t' then ['\\', 't']
  else if c == '\x08' then ['\\', 'b']
  else if c == '\x0c' then ['\\', 'f']
  else if ' ' ≤ c && c ≤ '~' then [c]
  else if c.toNat < 0x10000 then '\\' :: 'u' :: hexDigits 4 c.toNat
  else
    let n := c.toNat - 0x10000
    '\\' :: 'u' :: hexDigits 4 (0xd800 + n / 0x400) ++ '\\' :: 'u' :: hexDigits 4 (0xdc00 + n % 0x400)

/-- A text as JSON. -/
def printString (s : String) : String :=
  "\"" ++ String.ofList (s.toList.flatMap printChar) ++ "\""

mutual

/-- The JSON text of a value. -/
def print : Json → String
  | null => "null"
  | bool b => if b then "true" else "false"
  | int n => toString n
  | float x => x.text "Infinity" "NaN"
  | string s => printString s
  | array items => "[" ++ ", ".intercalate (printItems items) ++ "]"
  | object members => "\x7b" ++ ", ".intercalate (printMembers members) ++ "\x7d"

def printItems : List Json → List String
  | [] => []
  | v :: rest => print v :: printItems rest

def printMembers : List (String × Json) → List String
  | [] => []
  | (name, v) :: rest => (printString name ++ ": " ++ print v) :: printMembers rest

end

mutual

/-- The text of a value inside a message. -/
def shown : Json → String
  | null => "None"
  | bool b => if b then "True" else "False"
  | int n => toString n
  | float x => x.text "inf" "nan"
  | string s => Text.quoted s
  | array items => "[" ++ ", ".intercalate (shownItems items) ++ "]"
  | object members => "\x7b" ++ ", ".intercalate (shownMembers members) ++ "\x7d"

def shownItems : List Json → List String
  | [] => []
  | v :: rest => shown v :: shownItems rest

def shownMembers : List (String × Json) → List String
  | [] => []
  | (name, v) :: rest => (Text.quoted name ++ ": " ++ shown v) :: shownMembers rest

end

end MfmRender.Json
