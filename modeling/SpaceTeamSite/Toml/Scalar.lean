import SpaceTeamSite.Toml.Value
import SpaceTeamSite.Calendar.Date

/-!
# TOML numbers, booleans and date-times

A value that starts with a sign or a digit is read, in this order, as a date-time, a
float or an integer, the first that fits.

* Integers are decimal, with an optional sign and no leading zero, or hexadecimal, octal
  or binary after `0x`, `0o`, `0b` and without a sign. Underscores may stand between
  digits. The value must fit in a signed 64-bit integer.
* A float is a decimal integer followed by a fraction, an exponent or both (the
  fraction and the exponent may start with zeros), or `inf` or `nan` with an optional
  sign. A float too large for a double is refused when it is positive.
* A date-time is a date, a date followed by `T`, `t` or a space and a time, or a time
  alone, where a time has hours, minutes, seconds and an optional fraction, and a time
  after a date may carry `Z`, `z` or a signed offset. Every field has a fixed width and
  its range; the day must exist in its month.
-/

namespace SpaceTeamSite.Toml

/-- The value of an ASCII digit below `base`. -/
def digitIn (base : Nat) (c : Char) : Option Nat :=
  let d :=
    if '0' ≤ c ∧ c ≤ '9' then c.toNat - 48
    else if 'a' ≤ c ∧ c ≤ 'f' then c.toNat - 87
    else if 'A' ≤ c ∧ c ≤ 'F' then c.toNat - 55
    else 99
  if d < base then some d else none

/-- More digits after a first one, each alone or after one underscore; an underscore
not followed by a digit is an error. The digits come back last first. -/
def readMoreDigits (base : Nat) (acc : List Nat) : List Char → Option (List Nat × List Char)
  | '_' :: c :: rest =>
    match digitIn base c with
    | some d => readMoreDigits base (d :: acc) rest
    | none => none
  | ['_'] => none
  | c :: rest =>
    match digitIn base c with
    | some d => readMoreDigits base (d :: acc) rest
    | none => some (acc, c :: rest)
  | [] => some (acc, [])

/-- Digits with single underscores between them, at least one digit, in order. -/
def readDigitGroup (base : Nat) : List Char → Option (List Nat × List Char)
  | c :: rest => do
    let d ← digitIn base c
    let (ds, rest') ← readMoreDigits base [d] rest
    some (ds.reverse, rest')
  | [] => none

/-- The number written by digits in a base. -/
def digitsNumber (base : Nat) (ds : List Nat) : Nat :=
  ds.foldl (fun acc d => acc * base + d) 0

/-- An optional sign: whether it is a minus, and the rest. -/
def readSign : List Char → Bool × List Char
  | '-' :: rest => (true, rest)
  | '+' :: rest => (false, rest)
  | cs => (false, cs)

/-- The digits of a decimal integer without its sign: a lone zero, or digits that do
not start with zero. -/
def readUnsignedDecimal : List Char → Option (List Nat × List Char)
  | '0' :: rest => some ([0], rest)
  | cs => readDigitGroup 10 cs

/-- A decimal integer: whether it is negative, its digits, and the rest. -/
def readDecimal (cs : List Char) : Option (Bool × List Nat × List Char) :=
  let (negative, rest) := readSign cs
  (readUnsignedDecimal rest).map fun (ds, rest') => (negative, ds, rest')

/-- The least signed 64-bit integer and the greatest. -/
def i64Min : Int := -9223372036854775808
def i64Max : Int := 9223372036854775807

/-- An integer in any of its four notations, within the signed 64-bit range. -/
def readInteger (cs : List Char) : Option (Int × List Char) :=
  let based (base : Nat) (rest : List Char) : Option (Int × List Char) := do
    let (ds, rest') ← readDigitGroup base rest
    let n : Int := digitsNumber base ds
    if n ≤ i64Max then some (n, rest') else none
  match cs with
  | '0' :: 'x' :: rest => based 16 rest
  | '0' :: 'o' :: rest => based 8 rest
  | '0' :: 'b' :: rest => based 2 rest
  | _ => do
    let (negative, ds, rest) ← readDecimal cs
    let n : Int := digitsNumber 10 ds
    let n := if negative then -n else n
    if i64Min ≤ n ∧ n ≤ i64Max then some (n, rest) else none

/-- Whether the decimal number `m · 10 ^ e` rounds to infinity as a double: it does
from the point halfway between the greatest double and `2 ^ 1024`, ties going to the
even neighbour, which is infinity. -/
def overflowsDouble (m : Nat) (e : Int) : Bool :=
  let threshold : Nat := (Nat.pow 2 54 - 1) * Nat.pow 2 970
  let size : Int := (toString m).length
  if m = 0 then false
  else if 310 ≤ size + e then true
  else if size + e ≤ 308 then false
  else if 0 ≤ e then threshold ≤ m * Nat.pow 10 e.toNat
  else threshold * Nat.pow 10 (-e).toNat ≤ m

/-- An exponent after `e` or `E`: its value. -/
def readExponent (cs : List Char) : Option (Int × List Char) := do
  let (negative, rest) := readSign cs
  let (ds, rest') ← readDigitGroup 10 rest
  let n : Int := digitsNumber 10 ds
  some (if negative then -n else n, rest')

/-- A float in decimal notation, or infinity or not-a-number. -/
def readFloat (cs : List Char) : Option (String × List Char) :=
  let text (rest : List Char) := String.ofList (cs.take (cs.length - rest.length))
  match (readSign cs).2 with
  | 'i' :: 'n' :: 'f' :: rest => some (text rest, rest)
  | 'n' :: 'a' :: 'n' :: rest => some (text rest, rest)
  | _ => do
    let (negative, whole, rest) ← readDecimal cs
    let (fraction, exponent, rest) ← match rest with
      | '.' :: more => do
        let (fraction, more) ← readDigitGroup 10 more
        match more with
        | c :: more' =>
          if c = 'e' ∨ c = 'E' then
            (readExponent more').map fun (e, r) => (fraction, e, r)
          else some (fraction, 0, c :: more')
        | [] => some (fraction, 0, [])
      | c :: more =>
        if c = 'e' ∨ c = 'E' then (readExponent more).map fun (e, r) => ([], e, r) else none
      | [] => none
    let m := digitsNumber 10 (whole ++ fraction)
    if !negative && overflowsDouble m (exponent - fraction.length) then none
    else some (text rest, rest)

/-- Exactly `n` decimal digits, as a number. -/
def readFixed (n : Nat) (cs : List Char) : Option (Nat × List Char) :=
  let ds := cs.take n
  if ds.length = n ∧ ds.all Char.isDigit then
    some (digitsNumber 10 (ds.map fun c => c.toNat - 48), cs.drop n)
  else none

/-- A fixed-width field within `lo..hi`. -/
def readField (n lo hi : Nat) (cs : List Char) : Option (Nat × List Char) := do
  let (v, rest) ← readFixed n cs
  if lo ≤ v ∧ v ≤ hi then some (v, rest) else none

/-- One expected character. -/
def readChar (c : Char) : List Char → Option (List Char)
  | d :: rest => if d = c then some rest else none
  | [] => none

/-- A date `YYYY-MM-DD` whose day exists in its month. -/
def readDate (cs : List Char) : Option (List Char) := do
  let (year, rest) ← readFixed 4 cs
  let rest ← readChar '-' rest
  let (month, rest) ← readField 2 1 12 rest
  let rest ← readChar '-' rest
  let (day, rest) ← readField 2 1 31 rest
  if day ≤ Calendar.daysInMonth year month then some rest else none

/-- A time `HH:MM:SS` with an optional fraction of any length. -/
def readTime (cs : List Char) : Option (List Char) := do
  let (_, rest) ← readField 2 0 23 cs
  let rest ← readChar ':' rest
  let (_, rest) ← readField 2 0 59 rest
  let rest ← readChar ':' rest
  let (_, rest) ← readField 2 0 60 rest
  match rest with
  | '.' :: more => readDigitRun more
  | _ => some rest
where
  /-- At least one digit, then the rest after them. -/
  readDigitRun (cs : List Char) : Option (List Char) :=
    match cs with
    | c :: _ => if c.isDigit then some (cs.dropWhile Char.isDigit) else none
    | [] => none

/-- An offset `Z`, `z` or `±HH:MM`, if one follows. -/
def readZone (cs : List Char) : Option (List Char) :=
  match cs with
  | 'Z' :: rest => some rest
  | 'z' :: rest => some rest
  | c :: rest =>
    if c = '+' ∨ c = '-' then do
      let (_, rest) ← readField 2 0 23 rest
      let rest ← readChar ':' rest
      let (_, rest) ← readField 2 0 59 rest
      some rest
    else none
  | [] => none

/-- A date-time, a date, or a time: its text and the rest. -/
def readDateTime (cs : List Char) : Option (String × List Char) :=
  let text (rest : List Char) := String.ofList (cs.take (cs.length - rest.length))
  match readDate cs with
  | some rest =>
    let rest :=
      match rest with
      | d :: more =>
        if d = 'T' ∨ d = 't' ∨ d = ' ' then
          match readTime more with
          | some more' => (readZone more').getD more'
          | none => rest
        else rest
      | [] => rest
    some (text rest, rest)
  | none => (readTime cs).map fun rest => (text rest, rest)

/-- A value that starts with a sign or a digit. -/
def readNumeric (cs : List Char) : Option (Value × List Char) :=
  match readDateTime cs with
  | some (t, rest) => some (.datetime t, rest)
  | none =>
    match readFloat cs with
    | some (t, rest) => some (.float t, rest)
    | none => (readInteger cs).map fun (n, rest) => (.integer n, rest)

/-- A value that starts with a letter: a boolean, or infinity or not-a-number. -/
def readWord : List Char → Option (Value × List Char)
  | 't' :: 'r' :: 'u' :: 'e' :: rest => some (.boolean true, rest)
  | 'f' :: 'a' :: 'l' :: 's' :: 'e' :: rest => some (.boolean false, rest)
  | 'i' :: 'n' :: 'f' :: rest => some (.float "inf", rest)
  | 'n' :: 'a' :: 'n' :: rest => some (.float "nan", rest)
  | _ => none

end SpaceTeamSite.Toml
