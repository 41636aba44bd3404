/-!
# Request targets

A request names what it asks for by a target, read as a URI:

* the origin form `/path?query`;
* the asterisk `*`;
* the absolute form `scheme://authority/path?query`, whose scheme is `http`, `https`
  (in any case) or letters, digits, `+`, `-`, `.` and `~`, at most 64 of them;
* an authority alone, such as `example.com:80`.

A fragment after `#` is dropped. The path of an absolute form with nothing after its
authority is `/`; an authority alone has an empty path, which no route matches.

Paths and queries admit every character from `!` up, non-ASCII ones included, but
delete and a few others each (see `pathChar` and `queryChar`); the fragment is not
looked at. An authority admits the URI characters only: at most one colon outside
brackets, brackets only in pairs, a percent sign only in the user part before `@`, and
something after an `@`. A target longer than 65534 bytes, or empty, is refused, and
so is a scheme with nothing after it.
-/

namespace SpaceTeamSite.Http

/-- Why a target is not a URI. -/
inductive TargetError where
  | empty
  | tooLong
  | invalidChar
  | invalidAuthority
  | invalidFormat
  | schemeTooLong
  deriving DecidableEq, Repr

/-- The text of a target error. -/
def TargetError.message : TargetError → String
  | .empty => "empty string"
  | .tooLong => "uri too long"
  | .invalidChar => "invalid uri character"
  | .invalidAuthority => "invalid authority"
  | .invalidFormat => "invalid format"
  | .schemeTooLong => "scheme too long"

/-- What routing reads of a target. -/
structure Target where
  path : String
  query : Option String
  deriving DecidableEq, Repr

/-- Characters from `!` up, delete apart. -/
def visibleChar (c : Char) : Bool := 0x21 ≤ c.toNat && c.toNat != 0x7F

/-- Characters a path holds as they are: the visible ones but `#`, `<`, `>`, `?` and
the backquote. -/
def pathChar (c : Char) : Bool :=
  visibleChar c && !"#<>?`".toList.contains c

/-- Characters a query holds as they are: the visible ones but `"`, `#`, `<` and `>`. -/
def queryChar (c : Char) : Bool :=
  visibleChar c && !"\"#<>".toList.contains c

/-- Characters of a scheme other than its colon. -/
def schemeChar (c : Char) : Bool :=
  c.isAlphanum || c == '+' || c == '-' || c == '.' || c == '~'

/-- Characters an authority may hold: the URI characters. -/
def authorityChar (c : Char) : Bool :=
  c.isAlphanum || "!#$&'()*+,-./:;=?@[]_~".toList.contains c

/-- The longest target, in bytes. -/
def maxTargetBytes : Nat := 65534

/-- Reads a path and a query, the fragment dropped. -/
def readPathQuery (cs : List Char) : Except TargetError (String × Option String) := do
  let path := cs.takeWhile fun c => c != '?' && c != '#'
  unless path.all pathChar do throw .invalidChar
  match cs.drop path.length with
  | '?' :: rest =>
    let query := rest.takeWhile (· != '#')
    unless query.all queryChar do throw .invalidChar
    pure (String.ofList path, some (String.ofList query))
  | _ => pure (String.ofList path, none)

/-- The length of a scheme ending in `://` at the start of the characters: its
characters are scheme characters, and the first colon is the one before `//`. -/
def schemeLength : Nat → List Char → Option Nat
  | n, ':' :: '/' :: '/' :: _ => some n
  | n, c :: rest => if schemeChar c && c != ':' then schemeLength (n + 1) rest else none
  | _, [] => none

/-- The scheme of an absolute target, as the number of characters up to and with its
`://`; none when the target has no scheme. -/
def schemePrefix (cs : List Char) : Except TargetError (Option Nat) :=
  let lower := (cs.take 8).map Char.toLower
  if lower.take 7 == "http://".toList then .ok (some 7)
  else if lower == "https://".toList then .ok (some 8)
  else if cs.length ≤ 3 then .ok none
  else
    match schemeLength 0 cs with
    | some n => if 64 < n then .error .schemeTooLong else .ok (some (n + 3))
    | none => .ok none

/-- What the scan of an authority has seen so far. -/
structure AuthorityScan where
  colons : Nat := 0
  openBracket : Bool := false
  closeBracket : Bool := false
  percent : Bool := false
  /-- Whether the last character read was `@`. -/
  lastAt : Bool := false

/-- One character of an authority. -/
def AuthorityScan.step (s : AuthorityScan) (c : Char) : Except TargetError AuthorityScan :=
  let s := { s with lastAt := false }
  match c with
  | ':' => if 8 ≤ s.colons then .error .invalidAuthority else .ok { s with colons := s.colons + 1 }
  | '[' => if s.percent || s.openBracket then .error .invalidAuthority else .ok { s with openBracket := true }
  | ']' =>
    if !s.openBracket || s.closeBracket then .error .invalidAuthority
    else .ok { s with closeBracket := true, colons := 0, percent := false }
  | '@' => .ok { s with colons := 0, percent := false, lastAt := true }
  | '%' => .ok { s with percent := true }
  | c => if authorityChar c then .ok s else .error .invalidChar

/-- The length of the authority at the start of the characters, which ends before the
first `/`, `?` or `#`. -/
def authorityLength (cs : List Char) : Except TargetError Nat := do
  let part := cs.takeWhile fun c => c != '/' && c != '?' && c != '#'
  let s ← part.foldlM AuthorityScan.step {}
  if s.openBracket != s.closeBracket || 1 < s.colons || s.lastAt || s.percent then
    throw .invalidAuthority
  pure part.length

/-- Reads a target. -/
def Target.parse (target : String) : Except TargetError Target := do
  if maxTargetBytes < target.utf8ByteSize then throw .tooLong
  match target.toList with
  | [] => throw .empty
  | ['*'] => pure ⟨"*", none⟩
  | [c] =>
    if c == '/' then pure ⟨"/", none⟩
    else
      let n ← authorityLength [c]
      if n == 1 then pure ⟨"", none⟩ else throw .invalidChar
  | '/' :: rest =>
    let (path, query) ← readPathQuery ('/' :: rest)
    pure ⟨path, query⟩
  | cs =>
    match ← schemePrefix cs with
    | none =>
      let n ← authorityLength cs
      if n == cs.length then pure ⟨"", none⟩ else throw .invalidFormat
    | some k =>
      let rest := cs.drop k
      if rest.isEmpty then throw .empty
      let n ← authorityLength rest
      if n == 0 then throw .invalidFormat
      let (path, query) ← readPathQuery (rest.drop n)
      pure ⟨if path.isEmpty then "/" else path, query⟩

end SpaceTeamSite.Http
