import SpaceTeamSite.Json.Value

/-!
# Reading JSON text

A strict reader of one JSON value. Between tokens only space, tab, line feed and
carriage return are blanks, so a byte-order mark is an error; so is anything but
blanks after the value. Strings may not hold raw control characters and know only
the standard escapes. Numbers follow the JSON grammar: no leading zeros, at least
one digit after a point and in an exponent. Literals are spelled in lower case.

The reader recurses on a fuel that starts at the length of the input: every call
consumes at least one character, so the fuel never runs out on a document that
reads, however deeply it nests.
-/

namespace SpaceTeamSite.Json

/-- JSON's blanks. -/
def isJsonBlank (c : Char) : Bool := c = ' ' || c = '\t' || c = '\n' || c = '\r'

/-- Drops leading blanks. -/
def skipBlank (cs : List Char) : List Char := cs.dropWhile isJsonBlank

/-- The value of a hex digit. -/
def hexValue? (c : Char) : Option Nat :=
  if '0' ≤ c ∧ c ≤ '9' then some (c.toNat - 48)
  else if 'a' ≤ c ∧ c ≤ 'f' then some (c.toNat - 87)
  else if 'A' ≤ c ∧ c ≤ 'F' then some (c.toNat - 55)
  else none

/-- Four hex digits. -/
def readHex4 : List Char → Option (Nat × List Char)
  | a :: b :: c :: d :: rest => do
    let a ← hexValue? a
    let b ← hexValue? b
    let c ← hexValue? c
    let d ← hexValue? d
    some (((a * 16 + b) * 16 + c) * 16 + d, rest)
  | _ => none

/-- The character of a one-letter escape. -/
def shortEscape? : Char → Option Char
  | '"' => some '"'
  | '\\' => some '\\'
  | '/' => some '/'
  | 'b' => some '\x08'
  | 'f' => some '\x0c'
  | 'n' => some '\n'
  | 'r' => some '\r'
  | 't' => some '\t'
  | _ => none

/-- The state of a string being read: the characters so far (last first), a high
surrogate waiting for its partner, and whether a surrogate was left unpaired. -/
structure StrState where
  chars : List Char := []
  high : Option Nat := none
  unpaired : Bool := false

namespace StrState

/-- Adds a character; a waiting high surrogate is then unpaired. -/
def push (st : StrState) (c : Char) : StrState :=
  { chars := c :: st.chars, high := none, unpaired := st.unpaired || st.high.isSome }

/-- Adds one UTF-16 code unit given by a `\u` escape. -/
def pushUnit (st : StrState) (u : Nat) : StrState :=
  if 0xD800 ≤ u ∧ u ≤ 0xDBFF then
    { st with high := some u, unpaired := st.unpaired || st.high.isSome }
  else if 0xDC00 ≤ u ∧ u ≤ 0xDFFF then
    match st.high with
    | some h => { st with high := none }.push (Char.ofNat (0x10000 + (h - 0xD800) * 0x400 + (u - 0xDC00)))
    | none => { st with unpaired := true }
  else st.push (Char.ofNat u)

/-- The finished string. -/
def finish (st : StrState) : Str :=
  if st.unpaired || st.high.isSome then .unpaired else .text (String.ofList st.chars.reverse)

end StrState

/-- Reads the rest of a string literal, after its opening quote. -/
def readStr (st : StrState) : List Char → Option (Str × List Char)
  | [] => none
  | '"' :: rest => some (st.finish, rest)
  | '\\' :: 'u' :: a :: b :: c :: d :: rest =>
    match readHex4 [a, b, c, d] with
    | some (u, _) => readStr (st.pushUnit u) rest
    | none => none
  | '\\' :: e :: rest =>
    match shortEscape? e with
    | some c => readStr (st.push c) rest
    | none => none
  | c :: rest => if c.toNat < 0x20 then none else readStr (st.push c) rest
termination_by cs => cs.length

/-- Reads one or more digits. -/
def readDigitRun (cs : List Char) : Option (List Char × List Char) :=
  let ds := cs.takeWhile Char.isDigit
  if ds.isEmpty then none else some (ds, cs.drop ds.length)

/-- The integer part of a number: `0`, or a non-zero digit and more digits. -/
def readIntPart : List Char → Option (List Char × List Char)
  | '0' :: rest => match rest with
    | d :: _ => if d.isDigit then none else some (['0'], rest)
    | [] => some (['0'], rest)
  | cs => match cs with
    | d :: _ => if d.isDigit then readDigitRun cs else none
    | [] => none

/-- An optional fraction. -/
def readFraction : List Char → Option (List Char × List Char)
  | '.' :: rest => (readDigitRun rest).map fun (ds, r) => ('.' :: ds, r)
  | cs => some ([], cs)

/-- An optional exponent. -/
def readExponent : List Char → Option (List Char × List Char)
  | e :: rest =>
    if e = 'e' ∨ e = 'E' then
      let (sign, rest) := match rest with
        | '+' :: r => (['+'], r)
        | '-' :: r => (['-'], r)
        | r => ([], r)
      (readDigitRun rest).map fun (ds, r) => (e :: sign ++ ds, r)
    else some ([], e :: rest)
  | [] => some ([], [])

/-- Reads a number, keeping its text. -/
def readNumber (cs : List Char) : Option (String × List Char) := do
  let (sign, cs) := match cs with
    | '-' :: r => (['-'], r)
    | r => ([], r)
  let (int, cs) ← readIntPart cs
  let (frac, cs) ← readFraction cs
  let (exp, cs) ← readExponent cs
  some (String.ofList (sign ++ int ++ frac ++ exp), cs)

mutual

/-- Reads a value after optional blanks. -/
def readValue : Nat → List Char → Option (Value × List Char)
  | 0, _ => none
  | fuel + 1, cs =>
    match skipBlank cs with
    | 'n' :: 'u' :: 'l' :: 'l' :: rest => some (.null, rest)
    | 't' :: 'r' :: 'u' :: 'e' :: rest => some (.bool true, rest)
    | 'f' :: 'a' :: 'l' :: 's' :: 'e' :: rest => some (.bool false, rest)
    | '"' :: rest => (readStr {} rest).map fun (s, r) => (.string s, r)
    | '[' :: rest =>
      match skipBlank rest with
      | ']' :: more => some (.array [], more)
      | _ => (readItems fuel [] rest).map fun (vs, r) => (.array vs, r)
    | '{' :: rest =>
      match skipBlank rest with
      | '}' :: more => some (.object [], more)
      | _ => (readMembers fuel [] rest).map fun (ms, r) => (.object ms, r)
    | cs => (readNumber cs).map fun (d, r) => (.number d, r)

/-- Reads array items after `[`, up to and including `]`. -/
def readItems : Nat → List Value → List Char → Option (List Value × List Char)
  | 0, _, _ => none
  | fuel + 1, acc, cs =>
    match readValue fuel cs with
    | none => none
    | some (v, rest) =>
      match skipBlank rest with
      | ',' :: more => readItems fuel (v :: acc) more
      | ']' :: more => some ((v :: acc).reverse, more)
      | _ => none

/-- Reads object members after `{`, up to and including `}`. -/
def readMembers : Nat → List (Str × Value) → List Char → Option (List (Str × Value) × List Char)
  | 0, _, _ => none
  | fuel + 1, acc, cs =>
    match skipBlank cs with
    | '"' :: rest =>
      match readStr {} rest with
      | none => none
      | some (k, rest) =>
        match skipBlank rest with
        | ':' :: rest =>
          match readValue fuel rest with
          | none => none
          | some (v, rest) =>
            match skipBlank rest with
            | ',' :: more => readMembers fuel ((k, v) :: acc) more
            | '}' :: more => some (((k, v) :: acc).reverse, more)
            | _ => none
        | _ => none
    | _ => none

end

/-- Reads a whole document: one value, with only blanks around it. -/
def Value.parse? (s : String) : Option Value :=
  let cs := s.toList
  match readValue (cs.length + 1) cs with
  | some (v, rest) => if (skipBlank rest).isEmpty then some v else none
  | none => none

end SpaceTeamSite.Json
