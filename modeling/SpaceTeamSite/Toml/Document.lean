import SpaceTeamSite.Toml.Lexeme
import SpaceTeamSite.Toml.Scalar
import SpaceTeamSite.Toml.Tree

/-!
# Reading a TOML document

A document is read line by line. A line is blank, a comment, a header `[key]` or
`[[key]]`, or a pair `key = value`; after a header or a pair only blanks and a comment
may follow on its line. The pairs under a header go to the table it names; those before
the first header go to the root table. An optional byte-order mark at the start is
skipped.

Arrays may spread over several lines, with comments between their items and a comma
after the last. Inline tables stay on one line, with no comma after the last member;
once written they are closed. Arrays and inline tables nest less than `nestingLimit`
deep, and a dotted key has fewer parts than that.

The value reader recurses on a fuel of twice the length of the text it reads: each
call either consumes a character or is followed by one that does.
-/

namespace SpaceTeamSite.Toml

mutual

/-- One value; `depth` counts the arrays and inline tables around it. -/
def readValue : Nat → Nat → List Char → Option (Value × List Char)
  | 0, _, _ => none
  | fuel + 1, depth, cs =>
    match cs with
    | '"' :: _ => (readString cs).map fun (s, rest) => (.string s, rest)
    | '\'' :: _ => (readString cs).map fun (s, rest) => (.string s, rest)
    | '[' :: rest =>
      if depth + 1 < nestingLimit then readItems fuel (depth + 1) [] rest else none
    | '{' :: rest =>
      if depth + 1 < nestingLimit then
        match skipBlank rest with
        | '}' :: rest' => some (.table [], rest')
        | rest' => readMembers fuel (depth + 1) [] rest'
      else none
    | c :: _ =>
      if c = '+' ∨ c = '-' ∨ c.isDigit then readNumeric cs else readWord cs
    | [] => none

/-- The items of an array, after its opening bracket or after a comma. -/
def readItems : Nat → Nat → List Value → List Char → Option (Value × List Char)
  | 0, _, _, _ => none
  | fuel + 1, depth, acc, cs =>
    match skipTrivia cs with
    | ']' :: rest => some (.array acc.reverse, rest)
    | cs' => do
      let (v, rest) ← readValue fuel depth cs'
      match skipTrivia rest with
      | ',' :: more => readItems fuel depth (v :: acc) more
      | ']' :: more => some (.array (v :: acc).reverse, more)
      | _ => none

/-- The members of a non-empty inline table, from one member on. -/
def readMembers : Nat → Nat → Entries → List Char → Option (Value × List Char)
  | 0, _, _, _ => none
  | fuel + 1, depth, es, cs => do
    let (path, rest) ← readKey cs
    let rest ← match rest with
      | '=' :: r => some (skipBlank r)
      | _ => none
    let (v, rest) ← readValue fuel depth rest
    let (key, dots) ← match path.reverse with
      | key :: dots => some (key, dots.reverse)
      | [] => none
    let es ← Tree.addValue dots key v es false
    match skipBlank rest with
    | ',' :: more => readMembers fuel depth es more
    | '}' :: more => some (.table (Tree.entriesToValue es), more)
    | _ => none

end

/-- A value at the top of a pair, with fuel enough for its text. -/
def readPairValue (cs : List Char) : Option (Value × List Char) :=
  readValue (2 * cs.length + 2) 0 cs

/-- The state of a document being read: the root table and the path of the table the
next pairs go to. -/
structure Reading where
  root : Entries := []
  current : List String := []

namespace Reading

/-- Splits a key into the path before its last part and that part. -/
def splitKey (path : List String) : Option (List String × String) :=
  match path.reverse with
  | key :: dots => some (dots.reverse, key)
  | [] => none

/-- Adds a pair to the current table. -/
def addPair (st : Reading) (path : List String) (v : Value) : Option Reading := do
  let (dots, key) ← splitKey path
  let root ← Tree.withTable false (fun es d => Tree.addValue dots key v es d) st.current st.root false
  some { st with root }

/-- Starts the table named by a `[key]` header. -/
def startTable (st : Reading) (path : List String) : Option Reading := do
  let (dots, key) ← splitKey path
  let root ← Tree.withTable false (fun es _ => Tree.openTable key es) dots st.root false
  some { root, current := path }

/-- Starts a new table of the array named by a `[[key]]` header. -/
def startArrayTable (st : Reading) (path : List String) : Option Reading := do
  let (dots, key) ← splitKey path
  let root ← Tree.withTable false (fun es _ => Tree.appendTable key es) dots st.root false
  some { root, current := path }

end Reading

/-- Reads the lines of a document, on a fuel that counts characters. -/
def readLines : Nat → Reading → List Char → Option Entries
  | 0, _, _ => none
  | fuel + 1, st, cs =>
    match skipBlank cs with
    | [] => some st.root
    | '\n' :: rest => readLines fuel st rest
    | '\r' :: '\n' :: rest => readLines fuel st rest
    | '#' :: rest => do
      let rest ← lineEnd? (skipComment ('#' :: rest))
      readLines fuel st rest
    | '[' :: '[' :: rest => do
      let (path, rest) ← readKey rest
      let rest ← match rest with
        | ']' :: ']' :: r => lineTail? r
        | _ => none
      let st ← st.startArrayTable path
      readLines fuel st rest
    | '[' :: rest => do
      let (path, rest) ← readKey rest
      let rest ← match rest with
        | ']' :: r => lineTail? r
        | _ => none
      let st ← st.startTable path
      readLines fuel st rest
    | cs' => do
      let (path, rest) ← readKey cs'
      let rest ← match rest with
        | '=' :: r => some (skipBlank r)
        | _ => none
      let (v, rest) ← readPairValue rest
      let rest ← lineTail? rest
      let st ← st.addPair path v
      readLines fuel st rest

/-- Reads a TOML document into the entries of its root table, or `none` if the text is
not a valid document. -/
def parseDocument (text : String) : Option (List (String × Value)) :=
  let cs := match text.toList with
    | '\uFEFF' :: rest => rest
    | cs => cs
  (readLines (cs.length + 1) {} cs).map Tree.entriesToValue

end SpaceTeamSite.Toml
