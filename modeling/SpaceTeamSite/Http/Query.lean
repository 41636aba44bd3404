import SpaceTeamSite.Text.Utf8
import SpaceTeamSite.Json.Parse

/-!
# Query strings

A query string is a list of `name=value` pairs joined by `&`. Empty pieces are
skipped; a piece without `=` is a name with an empty value. In names and values a plus
is a space and `%XY` stands for the byte with hex value `XY` (a `%` not followed by two
hex digits stays as it is); the bytes then decode as UTF-8, invalid parts becoming
U+FFFD.

A page query takes the pairs named `lang`, `width` and `more` and ignores the others;
naming one of the three twice is an error.
-/

namespace SpaceTeamSite.Http

/-- The value of a hex digit byte. -/
def hexByte? (b : UInt8) : Option Nat := Json.hexValue? (Char.ofNat b.toNat)

/-- Undoes the form encoding of a name or value, byte by byte. -/
def unescapeBytes : List UInt8 → List UInt8
  | 0x2B :: rest => 0x20 :: unescapeBytes rest
  | 0x25 :: h :: l :: rest =>
    match hexByte? h, hexByte? l with
    | some a, some b => (a * 16 + b).toUInt8 :: unescapeBytes rest
    | _, _ => 0x25 :: unescapeBytes (h :: l :: rest)
  | b :: rest => b :: unescapeBytes rest
  | [] => []

/-- The text of a form-encoded name or value. -/
def formDecode (s : String) : String :=
  String.ofList (Text.decodeLossy (unescapeBytes s.toUTF8.toList))

/-- The pairs of a query string, decoded, in order. -/
def queryPairs (query : String) : List (String × String) :=
  (query.splitOn "&").filterMap fun piece =>
    if piece.isEmpty then none
    else match piece.splitOn "=" with
      | name :: rest => some (formDecode name, formDecode ("=".intercalate rest))
      | [] => none

/-- The page parameters of a query, as raw text. -/
structure PageQuery where
  lang : Option String := none
  width : Option String := none
  more : Option String := none
  deriving DecidableEq, Repr

/-- Why a query string was refused. -/
inductive QueryError where
  | duplicateField (name : String)
  deriving DecidableEq, Repr

/-- The message of a refused query string. -/
def QueryError.message : QueryError → String
  | .duplicateField name => "Failed to deserialize query string: duplicate field `" ++ name ++ "`"

/-- Sets a field once. -/
def setOnce (name : String) (slot : Option String) (v : String) : Except QueryError (Option String) :=
  match slot with
  | some _ => .error (.duplicateField name)
  | none => .ok (some v)

/-- Adds one pair to a page query. -/
def PageQuery.add (q : PageQuery) : String × String → Except QueryError PageQuery
  | ("lang", v) => return { q with lang := ← setOnce "lang" q.lang v }
  | ("width", v) => return { q with width := ← setOnce "width" q.width v }
  | ("more", v) => return { q with more := ← setOnce "more" q.more v }
  | _ => .ok q

/-- The page query of a query string. -/
def PageQuery.parse (query : String) : Except QueryError PageQuery :=
  (queryPairs query).foldlM PageQuery.add {}

end SpaceTeamSite.Http
