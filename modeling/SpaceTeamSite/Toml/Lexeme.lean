import SpaceTeamSite.Json.Parse

/-!
# TOML blanks, strings and keys

The small pieces of TOML text: blanks (space and tab only), comments, line endings
(line feed, or carriage return then line feed), the four kinds of string and dotted
keys. Every reader takes the characters still to read and answers with what it read
and the rest, or `none` when the text is not TOML.

Strings may hold tab and every character from space up, except delete; the other
control characters must be escaped. A multi-line string drops a line ending that
directly follows its opening quotes, turns each line ending into a line feed, and ends
at the first run of three or more quotes, the quotes past the third being its last
characters. In a multi-line basic string a backslash at the end of a line removes the
line ending and every blank and line ending after it.

A dotted key has fewer than `nestingLimit` parts, the bound that also holds the
nesting of arrays and inline tables.
-/

namespace SpaceTeamSite.Toml

/-- TOML's blanks inside a line. -/
def isBlank (c : Char) : Bool := c = ' ' || c = '\t'

/-- Drops leading blanks. -/
def skipBlank (cs : List Char) : List Char := cs.dropWhile isBlank

/-- Characters a string or comment may hold as they are. -/
def isPlainChar (c : Char) : Bool := c = '\t' || (0x20 ≤ c.toNat && c.toNat != 0x7F)

/-- Characters of a bare key. -/
def isBareKeyChar (c : Char) : Bool := c.isAlphanum || c = '_' || c = '-'

/-- The end of a line: a line ending, consumed, or the end of the text. -/
def lineEnd? : List Char → Option (List Char)
  | [] => some []
  | '\n' :: rest => some rest
  | '\r' :: '\n' :: rest => some rest
  | _ => none

/-- Skips a comment, if one starts here, up to (not including) the end of its line. -/
def skipComment : List Char → List Char
  | '#' :: rest => rest.dropWhile isPlainChar
  | cs => cs

/-- The end of a line that holds a key-value pair or a header: blanks, perhaps a
comment, then the line ending. -/
def lineTail? (cs : List Char) : Option (List Char) :=
  lineEnd? (skipComment (skipBlank cs))

/-- Skips blanks, line endings and comments, as may stand between the items of an
array. -/
def skipTrivia : List Char → List Char
  | ' ' :: rest => skipTrivia rest
  | '\t' :: rest => skipTrivia rest
  | '\n' :: rest => skipTrivia rest
  | '\r' :: '\n' :: rest => skipTrivia rest
  | '#' :: rest => skipTrivia (rest.dropWhile isPlainChar)
  | cs => cs
termination_by cs => cs.length
decreasing_by
  all_goals simp only [List.length_cons]
  all_goals first
    | omega
    | have h : rest.dropWhile isPlainChar <:+ rest := List.dropWhile_suffix isPlainChar
      have := h.length_le; omega

/-- The character a Unicode escape names, when it is a Unicode scalar value. -/
def scalarChar? (n : Nat) : Option Char :=
  if n < 0xD800 || (0xDFFF < n && n ≤ 0x10FFFF) then some (Char.ofNat n) else none

/-- The number written by hex digits. -/
def hexNumber? (ds : List Char) : Option Nat :=
  ds.foldlM (fun acc d => (Json.hexValue? d).map (acc * 16 + ·)) 0

/-- The character of a one-letter escape. -/
def letterEscape? : Char → Option Char
  | '"' => some '"'
  | '\\' => some '\\'
  | 'b' => some '\x08'
  | 'f' => some '\x0c'
  | 'n' => some '\n'
  | 'r' => some '\r'
  | 't' => some '\t'
  | _ => none

/-- The escape after a backslash, with the rest, which is shorter. -/
def readEscape (cs : List Char) : Option (Char × { rest : List Char // rest.length < cs.length }) :=
  match cs with
  | 'u' :: a :: b :: c :: d :: rest =>
    (hexNumber? [a, b, c, d] >>= scalarChar?).map fun ch => (ch, ⟨rest, by simp only [List.length_cons]; omega⟩)
  | 'U' :: a :: b :: c :: d :: e :: f :: g :: h :: rest =>
    (hexNumber? [a, b, c, d, e, f, g, h] >>= scalarChar?).map fun ch =>
      (ch, ⟨rest, by simp only [List.length_cons]; omega⟩)
  | e :: rest => (letterEscape? e).map fun ch => (ch, ⟨rest, by simp⟩)
  | [] => none

/-- The rest of a basic string after its opening quote. -/
def readBasicBody (acc : List Char) (cs : List Char) : Option (String × List Char) :=
  match cs with
  | '"' :: rest => some (String.ofList acc.reverse, rest)
  | '\\' :: rest =>
    match readEscape rest with
    | some (ch, ⟨rest', _⟩) => readBasicBody (ch :: acc) rest'
    | none => none
  | c :: rest => if isPlainChar c then readBasicBody (c :: acc) rest else none
  | [] => none
termination_by cs.length
decreasing_by all_goals simp only [List.length_cons]; omega

/-- The rest of a literal string after its opening apostrophe. -/
def readLiteralBody (acc : List Char) : List Char → Option (String × List Char)
  | '\'' :: rest => some (String.ofList acc.reverse, rest)
  | c :: rest => if isPlainChar c then readLiteralBody (c :: acc) rest else none
  | [] => none

/-- Drops the line ending that directly follows the opening quotes of a multi-line
string. -/
def dropOpeningLine : List Char → List Char
  | '\n' :: rest => rest
  | '\r' :: '\n' :: rest => rest
  | cs => cs

/-- Whether a line ending starts here. -/
def startsLine : List Char → Bool
  | '\n' :: _ => true
  | '\r' :: '\n' :: _ => true
  | _ => false

/-- Skips blanks and line endings after a line-ending backslash. -/
def skipFolded : (cs : List Char) → { rest : List Char // rest.length ≤ cs.length }
  | ' ' :: rest => let r := skipFolded rest; ⟨r.1, by have := r.2; simp; omega⟩
  | '\t' :: rest => let r := skipFolded rest; ⟨r.1, by have := r.2; simp; omega⟩
  | '\n' :: rest => let r := skipFolded rest; ⟨r.1, by have := r.2; simp; omega⟩
  | '\r' :: '\n' :: rest => let r := skipFolded rest; ⟨r.1, by have := r.2; simp; omega⟩
  | cs => ⟨cs, Nat.le_refl _⟩

/-- The text of a multi-line string ended by `q` once the closing run of quotes is
found: the one or two quotes past the third belong to the text. -/
def closeMultiline (q : Char) (acc : List Char) : List Char → String × List Char
  | a :: b :: rest => if a = q && b = q then (String.ofList (q :: q :: acc).reverse, rest)
      else if a = q then (String.ofList (q :: acc).reverse, b :: rest)
      else (String.ofList acc.reverse, a :: b :: rest)
  | [a] => if a = q then (String.ofList (q :: acc).reverse, []) else (String.ofList acc.reverse, [a])
  | [] => (String.ofList acc.reverse, [])

/-- The rest of a multi-line basic string after its opening quotes (and the line
ending dropped after them). -/
def readMultiBasicBody (acc : List Char) (cs : List Char) : Option (String × List Char) :=
  match cs with
  | '"' :: '"' :: '"' :: rest => some (closeMultiline '"' acc rest)
  | '\\' :: rest =>
    if startsLine (skipBlank rest) then
      match skipFolded rest with
      | ⟨r, _⟩ => readMultiBasicBody acc r
    else
      match readEscape rest with
      | some (ch, ⟨rest', _⟩) => readMultiBasicBody (ch :: acc) rest'
      | none => none
  | '\n' :: rest => readMultiBasicBody ('\n' :: acc) rest
  | '\r' :: '\n' :: rest => readMultiBasicBody ('\n' :: acc) rest
  | c :: rest => if isPlainChar c then readMultiBasicBody (c :: acc) rest else none
  | [] => none
termination_by cs.length
decreasing_by all_goals simp only [List.length_cons]; omega

/-- The rest of a multi-line literal string after its opening apostrophes. -/
def readMultiLiteralBody (acc : List Char) : List Char → Option (String × List Char)
  | '\'' :: '\'' :: '\'' :: rest => some (closeMultiline '\'' acc rest)
  | '\n' :: rest => readMultiLiteralBody ('\n' :: acc) rest
  | '\r' :: '\n' :: rest => readMultiLiteralBody ('\n' :: acc) rest
  | c :: rest => if isPlainChar c then readMultiLiteralBody (c :: acc) rest else none
  | [] => none

/-- A string of any of the four kinds. -/
def readString : List Char → Option (String × List Char)
  | '"' :: '"' :: '"' :: rest => readMultiBasicBody [] (dropOpeningLine rest)
  | '"' :: rest => readBasicBody [] rest
  | '\'' :: '\'' :: '\'' :: rest => readMultiLiteralBody [] (dropOpeningLine rest)
  | '\'' :: rest => readLiteralBody [] rest
  | _ => none

/-- One part of a key, with blanks around it: a bare key, or a one-line quoted one. -/
def readKeyPart (cs : List Char) : Option (String × List Char) :=
  let part : Option (String × List Char) :=
    match skipBlank cs with
    | '"' :: rest => readBasicBody [] rest
    | '\'' :: rest => readLiteralBody [] rest
    | cs' =>
      let bare := cs'.takeWhile isBareKeyChar
      if bare.isEmpty then none else some (String.ofList bare, cs'.drop bare.length)
  part.map fun (k, rest) => (k, skipBlank rest)

/-- The parts of a dotted key, read on a fuel that counts characters. -/
def readKeyParts : Nat → List Char → Option (List String × List Char)
  | 0, _ => none
  | fuel + 1, cs => do
    let (k, rest) ← readKeyPart cs
    match rest with
    | '.' :: more => let (ks, rest') ← readKeyParts fuel more; some (k :: ks, rest')
    | _ => some ([k], rest)

/-- The depth arrays and inline tables must stay below, and the number of parts a
dotted key must stay below. -/
def nestingLimit : Nat := 80

/-- A dotted key, with the blanks around it and its dots. -/
def readKey (cs : List Char) : Option (List String × List Char) := do
  let (ks, rest) ← readKeyParts (cs.length + 1) cs
  if ks.length < nestingLimit then some (ks, rest) else none

end SpaceTeamSite.Toml
