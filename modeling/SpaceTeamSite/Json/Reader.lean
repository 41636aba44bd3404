import SpaceTeamSite.Json.Parse

/-!
# Reading a JSON document, with the place of its first error

`Value.read` reads one whole document, as a reader of documents (not of records)
does, and on failure says what went wrong and where. It is stricter than
`Value.parse?` in three ways:

* a string must be text: an escape that leaves a surrogate unpaired is an error;
* arrays and objects nest less than `depthLimit` deep;
* a number must stay in range once read as a 64-bit float.

**Numbers.** The digits of a number are gathered into a significand of at most 64
bits and a decimal exponent. Once a digit of the integer part would carry the
significand past 64 bits, that digit and every later one of the integer part raise
the exponent instead; a digit of the fraction that would carry it is dropped, and a
fraction all of whose digits were dropped counts as having none, which is an error.
The exponent written after `e` has at most 31 bits: past that, the number is out of
range unless its significand is zero or the exponent negative, and otherwise is zero.
A number is out of range when the significand, rounded to a float, times the power
of ten, rounded to a float, rounds to infinity; a power of ten past `10^308` is out
of range for any significand but zero. A number that is a whole number with no
fraction and no exponent is never checked, since it is kept as a 64-bit integer or
rounded.

**Where.** An error is reported at a byte offset, shown as a line (counting from one)
and a column (the bytes before the offset on its line). The offset is where the
reader stands when it gives up: right after the byte at fault when it took that
byte, or one byte past where it stands when it only looked at the next byte (but
never past the end). Four hex digits are taken at once, so a bad `\u` escape is
reported four bytes on.

`outOfRange_of_neg` says that a negative exponent never puts a number out of range,
and `numberKind_negZero` that `-0` is a float.
-/

namespace SpaceTeamSite.Json

/-- What went wrong while reading a document. -/
inductive ReadErrorKind where
  | eofInList
  | eofInObject
  | eofInString
  | eofInValue
  | expectedColon
  | expectedListCommaOrEnd
  | expectedObjectCommaOrEnd
  | expectedIdent
  | expectedValue
  | invalidEscape
  | invalidNumber
  | numberOutOfRange
  | controlCharacter
  | keyMustBeString
  | loneLeadingSurrogate
  | unexpectedEndOfHexEscape
  | trailingComma
  | trailingCharacters
  | tooDeep
  deriving DecidableEq, Repr

/-- The words an error is reported with. -/
def ReadErrorKind.text : ReadErrorKind → String
  | .eofInList => "EOF while parsing a list"
  | .eofInObject => "EOF while parsing an object"
  | .eofInString => "EOF while parsing a string"
  | .eofInValue => "EOF while parsing a value"
  | .expectedColon => "expected `:`"
  | .expectedListCommaOrEnd => "expected `,` or `]`"
  | .expectedObjectCommaOrEnd => "expected `,` or `\x7d`"
  | .expectedIdent => "expected ident"
  | .expectedValue => "expected value"
  | .invalidEscape => "invalid escape"
  | .invalidNumber => "invalid number"
  | .numberOutOfRange => "number out of range"
  | .controlCharacter => "control character (\\u0000-\\u001F) found while parsing a string"
  | .keyMustBeString => "key must be a string"
  | .loneLeadingSurrogate => "lone leading surrogate in hex escape"
  | .unexpectedEndOfHexEscape => "unexpected end of hex escape"
  | .trailingComma => "trailing comma"
  | .trailingCharacters => "trailing characters"
  | .tooDeep => "recursion limit exceeded"

/-- An error and the byte offset it is reported at. -/
structure ReadError where
  kind : ReadErrorKind
  offset : Nat
  deriving DecidableEq, Repr

/-- The line and column of a byte offset in a text. -/
def position (text : String) (offset : Nat) : Nat × Nat :=
  let before := text.toUTF8.toList.take offset
  (1 + before.count 10, (before.reverse.takeWhile (· != 10)).length)

/-- What is said of an error in a text. -/
def ReadError.describe (e : ReadError) (text : String) : String :=
  let (line, column) := position text e.offset
  e.kind.text ++ " at line " ++ toString line ++ " column " ++ toString column

/-- How deep arrays and objects may not nest. -/
def depthLimit : Nat := 128

/-- The largest significand: 64 bits. -/
def significandLimit : Nat := Nat.pow 2 64 - 1

/-- The largest exponent written after `e`: 31 bits. -/
def exponentLimit : Nat := Nat.pow 2 31 - 1

/-- The value of a decimal digit. -/
def digitValue (c : Char) : Nat := c.toNat - 48

/-- The offset at the end of the text, from where the reader stands. -/
def endOffset (off : Nat) (cs : List Char) : Nat := off + (cs.map Char.utf8Size).foldr (· + ·) 0

/-- The offset of an error found by looking at the next byte: one byte on, or the end. -/
def aheadOffset (off : Nat) (cs : List Char) : Nat := if cs.isEmpty then off else off + 1

/-- Drops leading blanks, counting them. -/
def skipBlanks (off : Nat) (cs : List Char) : Nat × List Char :=
  let blanks := cs.takeWhile isJsonBlank
  (off + blanks.length, cs.drop blanks.length)

/-! ## Strings -/

/-- Whether a code unit is a high (leading) surrogate. -/
def isHighSurrogate (u : Nat) : Bool := 0xD800 ≤ u && u ≤ 0xDBFF

/-- Whether a code unit is a low (trailing) surrogate. -/
def isLowSurrogate (u : Nat) : Bool := 0xDC00 ≤ u && u ≤ 0xDFFF

/-- The character of a surrogate pair. -/
def pairChar (high low : Nat) : Char :=
  Char.ofNat (0x10000 + (high - 0xD800) * 0x400 + (low - 0xDC00))

/-- The error of a `\u` escape whose four bytes are not all hex digits: reported four
bytes on, or at the end when fewer are left. -/
def badUnit (off : Nat) (cs : List Char) : ReadError :=
  if off + 4 ≤ endOffset off cs then ⟨.invalidEscape, off + 4⟩
  else ⟨.eofInString, endOffset off cs⟩

/-- Reads the rest of a string after its opening quote: its text, and the offset and
characters after the closing quote. -/
def readText (acc : List Char) (off : Nat) : List Char → Except ReadError (String × Nat × List Char)
  | [] => .error ⟨.eofInString, off⟩
  | '"' :: rest => .ok (String.ofList acc.reverse, off + 1, rest)
  | '\\' :: rest =>
    match rest with
    | [] => .error ⟨.eofInString, off + 1⟩
    | 'u' :: a :: b :: c :: d :: more =>
      match readHex4 [a, b, c, d] with
      | none => .error (badUnit (off + 2) (a :: b :: c :: d :: more))
      | some (u, _) =>
        if isLowSurrogate u then .error ⟨.loneLeadingSurrogate, off + 6⟩
        else if !isHighSurrogate u then readText (Char.ofNat u :: acc) (off + 6) more
        else
          match more with
          | [] => .error ⟨.eofInString, off + 6⟩
          | '\\' :: more =>
            match more with
            | [] => .error ⟨.eofInString, off + 7⟩
            | 'u' :: a :: b :: c :: d :: more =>
              match readHex4 [a, b, c, d] with
              | none => .error (badUnit (off + 8) (a :: b :: c :: d :: more))
              | some (low, _) =>
                if isLowSurrogate low then readText (pairChar u low :: acc) (off + 12) more
                else .error ⟨.loneLeadingSurrogate, off + 12⟩
            | 'u' :: fewer => .error (badUnit (off + 8) fewer)
            | _ :: _ => .error ⟨.unexpectedEndOfHexEscape, off + 8⟩
          | _ :: _ => .error ⟨.unexpectedEndOfHexEscape, off + 7⟩
    | 'u' :: fewer => .error (badUnit (off + 2) fewer)
    | e :: more =>
      match shortEscape? e with
      | some ch => readText (ch :: acc) (off + 2) more
      | none => .error ⟨.invalidEscape, off + 2⟩
  | ch :: rest =>
    if ch.toNat < 0x20 then .error ⟨.controlCharacter, off + 1⟩
    else readText (ch :: acc) (off + ch.utf8Size) rest
termination_by cs => cs.length

/-! ## Numbers -/

/-- The nearest 64-bit float to a whole number, of two equally near the one with an
even last bit. -/
def roundToFloat (n : Nat) : Nat :=
  let width := Nat.log2 n + 1
  if width ≤ 53 then n
  else
    let k := width - 53
    let q := n / Nat.pow 2 k
    let r := n % Nat.pow 2 k
    let half := Nat.pow 2 (k - 1)
    (if half < r || (r == half && q % 2 == 1) then q + 1 else q) * Nat.pow 2 k

/-- The least number that rounds past the largest finite 64-bit float. -/
def floatOverflow : Nat := Nat.pow 2 1024 - Nat.pow 2 970

/-- Whether significand × 10^exponent is out of range as a 64-bit float. -/
def outOfRange (s : Nat) (e : Int) : Bool :=
  if e < 0 then false
  else if 308 < e then s != 0
  else floatOverflow ≤ roundToFloat s * roundToFloat (Nat.pow 10 e.toNat)

/-- The digits of an integer part after its first, as significand and exponent. -/
def intDigits (s e off : Nat) : List Char → Nat × Nat × Nat × List Char
  | d :: rest =>
    if d.isDigit then
      if 0 < e || significandLimit < s * 10 + digitValue d then intDigits s (e + 1) (off + 1) rest
      else intDigits (s * 10 + digitValue d) e (off + 1) rest
    else (s, e, off, d :: rest)
  | [] => (s, e, off, [])

/-- The digits of a fraction, and whether any of them counted. -/
def fracDigits (s : Nat) (e : Int) (counted : Bool) (off : Nat) :
    List Char → Nat × Int × Bool × Nat × List Char
  | d :: rest =>
    if d.isDigit then
      if significandLimit < s * 10 + digitValue d then fracDigits s e counted (off + 1) rest
      else fracDigits (s * 10 + digitValue d) (e - 1) true (off + 1) rest
    else (s, e, counted, off, d :: rest)
  | [] => (s, e, counted, off, [])

/-- The digits of an exponent after its first: its value, or, when it passes
`exponentLimit`, the offset and characters after the digit that passed it. -/
def expDigits (x off : Nat) : List Char → Except (Nat × List Char) (Nat × Nat × List Char)
  | d :: rest =>
    if d.isDigit then
      if exponentLimit < x * 10 + digitValue d then .error (off + 1, rest)
      else expDigits (x * 10 + digitValue d) (off + 1) rest
    else .ok (x, off, d :: rest)
  | [] => .ok (x, off, [])

/-- Checks a number's range once its digits are read. -/
def checkRange (s : Nat) (e : Int) (off : Nat) (cs : List Char) :
    Except ReadError (Nat × List Char) :=
  if outOfRange s e then .error ⟨.numberOutOfRange, off⟩ else .ok (off, cs)

/-- Reads an exponent after its `e`, for a significand and the exponent so far. -/
def readExponentPart (s : Nat) (start : Int) (off : Nat) (cs : List Char) :
    Except ReadError (Nat × List Char) :=
  let (up, off, cs) := match cs with
    | '+' :: r => (true, off + 1, r)
    | '-' :: r => (false, off + 1, r)
    | r => (true, off, r)
  match cs with
  | [] => .error ⟨.eofInValue, off⟩
  | d :: rest =>
    if !d.isDigit then .error ⟨.invalidNumber, off + 1⟩
    else
      match expDigits (digitValue d) (off + 1) rest with
      | .error (off, rest) =>
        if s != 0 && up then .error ⟨.numberOutOfRange, off⟩
        else
          let more := rest.takeWhile Char.isDigit
          .ok (off + more.length, rest.drop more.length)
      | .ok (x, off, rest) => checkRange s (if up then start + x else start - x) off rest

/-- Whether a character starts an exponent. -/
def isExponentMark (c : Char) : Bool := c == 'e' || c == 'E'

/-- Reads what follows an integer part: a fraction, an exponent, or nothing. -/
def readNumberTail (s e off : Nat) (cs : List Char) : Except ReadError (Nat × List Char) :=
  match cs with
  | '.' :: rest =>
    let (s, e, counted, off, cs) := fracDigits s e false (off + 1) rest
    if !counted then
      .error ⟨if cs.isEmpty then .eofInValue else .invalidNumber, aheadOffset off cs⟩
    else
      match cs with
      | c :: rest => if isExponentMark c then readExponentPart s e (off + 1) rest else checkRange s e off cs
      | [] => checkRange s e off cs
  | c :: rest =>
    if isExponentMark c then readExponentPart s e (off + 1) rest
    else if 0 < e then checkRange s e off cs
    else .ok (off, cs)
  | [] => if 0 < e then checkRange s e off cs else .ok (off, cs)

/-- Reads a number, from its sign or first digit: its text, and the offset and
characters after it. -/
def readNumberText (off : Nat) (cs : List Char) : Except ReadError (String × Nat × List Char) := do
  let (off1, cs1) := match cs with
    | '-' :: r => (off + 1, r)
    | r => (off, r)
  let (s, e, off2, cs2) ← match cs1 with
    | [] => .error ⟨.eofInValue, off1⟩
    | '0' :: r =>
      match r with
      | d :: _ => if d.isDigit then .error ⟨.invalidNumber, off1 + 2⟩ else .ok (0, 0, off1 + 1, r)
      | [] => .ok (0, 0, off1 + 1, [])
    | d :: r =>
      if d.isDigit then .ok (intDigits (digitValue d) 0 (off1 + 1) r)
      else .error ⟨.invalidNumber, off1 + 1⟩
  let (off3, rest) ← readNumberTail s e off2 cs2
  pure (String.ofList (cs.take (off3 - off)), off3, rest)

/-! ## Values -/

/-- Reads the rest of a literal word after its first letter. -/
def readWord (off : Nat) : List Char → List Char → Except ReadError (Nat × List Char)
  | [], cs => .ok (off, cs)
  | _ :: _, [] => .error ⟨.eofInValue, off⟩
  | w :: ws, c :: cs => if w == c then readWord (off + c.utf8Size) ws cs else .error ⟨.expectedIdent, off + 1⟩

mutual

/-- Reads a value after optional blanks, inside `depth` open arrays and objects. -/
def readDoc : Nat → Nat → Nat → List Char → Except ReadError (Value × Nat × List Char)
  | 0, _, off, _ => .error ⟨.eofInValue, off⟩
  | fuel + 1, depth, off, cs =>
    let (off, cs) := skipBlanks off cs
    match cs with
    | [] => .error ⟨.eofInValue, off⟩
    | 'n' :: rest => (readWord (off + 1) "ull".toList rest).map fun (o, r) => (.null, o, r)
    | 't' :: rest => (readWord (off + 1) "rue".toList rest).map fun (o, r) => (.bool true, o, r)
    | 'f' :: rest => (readWord (off + 1) "alse".toList rest).map fun (o, r) => (.bool false, o, r)
    | '"' :: rest => (readText [] (off + 1) rest).map fun (s, o, r) => (.string (.text s), o, r)
    | '[' :: rest =>
      if depthLimit ≤ depth + 1 then .error ⟨.tooDeep, off + 1⟩
      else (readDocItems fuel (depth + 1) true [] (off + 1) rest).map fun (vs, o, r) => (.array vs, o, r)
    | '{' :: rest =>
      if depthLimit ≤ depth + 1 then .error ⟨.tooDeep, off + 1⟩
      else (readDocMembers fuel (depth + 1) true [] (off + 1) rest).map fun (ms, o, r) => (.object ms, o, r)
    | c :: rest =>
      if c == '-' || c.isDigit then
        (readNumberText off (c :: rest)).map fun (d, o, r) => (.number d, o, r)
      else .error ⟨.expectedValue, off + 1⟩

/-- Reads array items after `[`, up to and including `]`. -/
def readDocItems : Nat → Nat → Bool → List Value → Nat → List Char →
    Except ReadError (List Value × Nat × List Char)
  | 0, _, _, _, off, _ => .error ⟨.eofInList, off⟩
  | fuel + 1, depth, first, acc, off, cs =>
    let (off, cs) := skipBlanks off cs
    let item (off : Nat) (cs : List Char) :=
      match readDoc fuel depth off cs with
      | .error e => .error e
      | .ok (v, off, cs) => readDocItems fuel depth false (v :: acc) off cs
    match cs with
    | [] => .error ⟨.eofInList, off⟩
    | ']' :: rest => .ok (acc.reverse, off + 1, rest)
    | ',' :: rest =>
      if first then item off cs
      else
        let (off, rest) := skipBlanks (off + 1) rest
        match rest with
        | ']' :: _ => .error ⟨.trailingComma, off + 1⟩
        | [] => .error ⟨.eofInValue, off⟩
        | _ => item off rest
    | _ => if first then item off cs else .error ⟨.expectedListCommaOrEnd, off + 1⟩

/-- Reads object members after `\x7b`, up to and including `\x7d`. -/
def readDocMembers : Nat → Nat → Bool → List (Str × Value) → Nat → List Char →
    Except ReadError (List (Str × Value) × Nat × List Char)
  | 0, _, _, _, off, _ => .error ⟨.eofInObject, off⟩
  | fuel + 1, depth, first, acc, off, cs =>
    let (off, cs) := skipBlanks off cs
    let member (off : Nat) (cs : List Char) :=
      match cs with
      | '"' :: rest =>
        match readText [] (off + 1) rest with
        | .error e => .error e
        | .ok (key, off, rest) =>
          match skipBlanks off rest with
          | (off, ':' :: rest) =>
            match readDoc fuel depth (off + 1) rest with
            | .error e => .error e
            | .ok (v, off, rest) => readDocMembers fuel depth false ((.text key, v) :: acc) off rest
          | (off, []) => .error ⟨.eofInObject, off⟩
          | (off, _ :: _) => .error ⟨.expectedColon, off + 1⟩
      | '\x7d' :: _ => .error ⟨.trailingComma, off + 1⟩
      | [] => .error ⟨.eofInValue, off⟩
      | _ :: _ => .error ⟨.keyMustBeString, off + 1⟩
    match cs with
    | [] => .error ⟨.eofInObject, off⟩
    | '\x7d' :: rest => .ok (acc.reverse, off + 1, rest)
    | ',' :: rest =>
      if first then member off cs
      else
        let (off, rest) := skipBlanks (off + 1) rest
        member off rest
    | _ => if first then member off cs else .error ⟨.expectedObjectCommaOrEnd, off + 1⟩

end

/-- Reads a whole document: one value, with only blanks after it. -/
def Value.read (text : String) : Except ReadError Value :=
  let cs := text.toList
  match readDoc (2 * cs.length + 2) 0 0 cs with
  | .error e => .error e
  | .ok (v, off, rest) =>
    match skipBlanks off rest with
    | (_, []) => .ok v
    | (off, _ :: _) => .error ⟨.trailingCharacters, off + 1⟩

/-! ## What a number holds -/

/-- What a number holds to a reader that keeps whole numbers of 64 bits exactly: a
whole number of 64 bits, a negative whole number of 64 bits, or else a float. -/
inductive NumberKind where
  | unsigned (n : Nat)
  | negative (n : Int)
  | float
  deriving DecidableEq, Repr

/-- The whole number a run of digits spells. -/
def digitsValue (ds : List Char) : Nat := ds.foldl (fun n d => n * 10 + digitValue d) 0

/-- What a number that was read holds: a whole number when it has neither fraction
nor exponent and fits, where a negative one must be below zero (`-0` is a float). -/
def numberKind (digits : String) : NumberKind :=
  if digits.any fun c => c == '.' || isExponentMark c then .float
  else
    match digits.toList with
    | '-' :: ds =>
      let n := digitsValue ds
      if 1 ≤ n && n ≤ Nat.pow 2 63 then .negative (-(n : Int)) else .float
    | ds =>
      let n := digitsValue ds
      if n ≤ significandLimit then .unsigned n else .float

theorem outOfRange_of_neg (s : Nat) (e : Int) (h : e < 0) : outOfRange s e = false := by
  simp [outOfRange, h]

theorem numberKind_negZero : numberKind "-0" = .float := by
  simp [numberKind, isExponentMark, digitsValue, digitValue]

end SpaceTeamSite.Json
