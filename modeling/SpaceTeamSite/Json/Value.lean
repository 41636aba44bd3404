/-!
# JSON values

A JSON document as read: objects keep their members in order, duplicates
included, and numbers keep the digits they were written with. Which duplicates
matter, and what a number means, is for the reader of the document to decide.

A JSON string is a sequence of UTF-16 code units, and an escape may leave a
surrogate unpaired. Such a string is no text, so `Str` records only that it is
`unpaired`; a reader that needs the text of one fails, while a reader that skips
it does not care.

`Value.render` writes a value compactly, with no blanks between tokens. In a
string it escapes the quote, the backslash and the control characters, using the
short escapes where JSON has them and `\u00XX` with lower-case hex otherwise.
-/

namespace SpaceTeamSite.Json

/-- The content of a JSON string literal. -/
inductive Str where
  | text (s : String)
  | unpaired
  deriving DecidableEq, Repr

/-- A JSON value. -/
inductive Value where
  | null
  | bool (b : Bool)
  | number (digits : String)
  | string (s : Str)
  | array (items : List Value)
  | object (members : List (Str × Value))
  deriving Repr, Inhabited

namespace Value

/-- A string value holding `s`. -/
def str (s : String) : Value := .string (.text s)

/-- A whole number. -/
def int (n : Int) : Value := .number (toString n)

/-- An object with the given members, in order. -/
def obj (members : List (String × Value)) : Value :=
  .object (members.map fun (k, v) => (.text k, v))

/-- A string value, or null. -/
def optStr : Option String → Value
  | some s => .str s
  | none => .null

/-- The text of a string value. -/
def text? : Value → Option String
  | .string (.text s) => some s
  | _ => none

end Value

/-- Lower-case hex digit. -/
def hexDigit (n : Nat) : Char :=
  if n < 10 then Char.ofNat (48 + n) else Char.ofNat (87 + n)

/-- How a character is written inside a JSON string. -/
def escapeChar (c : Char) : List Char :=
  match c with
  | '"' => ['\\', '"']
  | '\\' => ['\\', '\\']
  | '\n' => ['\\', 'n']
  | '\r' => ['\\', 'r']
  | '\t' => ['\\', 't']
  | '\x08' => ['\\', 'b']
  | '\x0c' => ['\\', 'f']
  | c =>
    if c.toNat < 0x20 then ['\\', 'u', '0', '0', hexDigit (c.toNat / 16), hexDigit (c.toNat % 16)]
    else [c]

/-- A JSON string literal, quotes included. -/
def quote (s : String) : String :=
  String.ofList ('"' :: (s.toList.flatMap escapeChar ++ ['"']))

/-- A string literal for the content of a JSON string. -/
def Str.render : Str → String
  | .text s => quote s
  | .unpaired => quote "�"

mutual

/-- Writes a value compactly. -/
def Value.render : Value → String
  | .null => "null"
  | .bool true => "true"
  | .bool false => "false"
  | .number d => d
  | .string s => s.render
  | .array items => "[" ++ renderItems items ++ "]"
  | .object members => "\x7b" ++ renderMembers members ++ "\x7d"

/-- Array items separated by commas. -/
def renderItems : List Value → String
  | [] => ""
  | [v] => v.render
  | v :: vs => v.render ++ "," ++ renderItems vs

/-- Object members separated by commas. -/
def renderMembers : List (Str × Value) → String
  | [] => ""
  | [(k, v)] => k.render ++ ":" ++ v.render
  | (k, v) :: ms => k.render ++ ":" ++ v.render ++ "," ++ renderMembers ms

end

end SpaceTeamSite.Json
