import SpaceTeamSite.Toml.Lexeme
import SpaceTeamSite.Toml.Scalar
import SpaceTeamSite.Toml.Decode

/-!
# Documents read as plain values

A document can be read field by field into records (see `Toml/Decode`), or as plain
values, as a tool that edits a document and writes it back reads it. The two readings
meet at datetimes: a record sees a datetime as the one-entry table `datetimeEntries`,
and a plain reading turns such a table back into the datetime. A table whose *first*
entry is `datetimeKey` is a datetime, and the entries after that one are dropped; the
entry must hold the text of a datetime, or the document cannot be read as plain values
at all. The document itself is a table of entries and stays one, whatever its first
key.

A tool that writes plain values back gives every table a header of its own, with
its full path, when the table is empty or holds a value that is not a table; an array
of tables gets a header per item, and other values are written inline, tables in
them included. Written so, a document that read well may no longer read: a header
may have too many parts, or an inline value may nest too deeply. `writesBack` says
whether the written document still reads.

`plain_datetimeEntries` checks that the plain reading undoes the record one on
a datetime.
-/

namespace SpaceTeamSite.Toml

/-- Whether a whole text is a datetime, a date or a time, as a document writes it. -/
def isDatetimeText (text : String) : Bool :=
  match readDateTime text.toList with
  | some (_, []) => true
  | _ => false

/-- The datetime that the first entry of a table stands for: its text must be one. -/
def markedDatetime? : Value → Option Value
  | .string t => if isDatetimeText t then some (.datetime t) else none
  | _ => none

mutual

/-- A value read as a plain value; none when some table's datetime entry holds no
datetime. -/
def Value.plain? : Value → Option Value
  | .table ((k, v) :: rest) =>
    if k == datetimeKey then markedDatetime? v
    else (plainEntries? ((k, v) :: rest)).map .table
  | .array items => (plainItems? items).map .array
  | v => some v

/-- The items of an array read as plain values. -/
def plainItems? : List Value → Option (List Value)
  | [] => some []
  | v :: rest => do
    let v ← v.plain?
    let rest ← plainItems? rest
    some (v :: rest)

/-- The entries of a table read as plain values, keys kept. -/
def plainEntries? : List (String × Value) → Option (List (String × Value))
  | [] => some []
  | (k, v) :: rest => do
    let v ← v.plain?
    let rest ← plainEntries? rest
    some ((k, v) :: rest)

end

/-- A document read as plain values: its entries, each read as a plain value. -/
def plainDocument? (doc : List (String × Value)) : Option (List (String × Value)) :=
  plainEntries? doc

/-- Whether a value is a table. -/
def Value.isTable : Value → Bool
  | .table _ => true
  | _ => false

/-- Whether a value is written back as tables with headers: a table, or an array of
one table or more and nothing else. -/
def Value.ownsHeader : Value → Bool
  | .table _ => true
  | .array items => !items.isEmpty && items.all Value.isTable
  | _ => false

/-- Whether a table written back needs a header of its own: it is empty, or holds a
value written inline. -/
def needsHeader (es : List (String × Value)) : Bool :=
  es.isEmpty || es.any fun (_, v) => !v.ownsHeader

mutual

/-- How deeply a value written inline nests: one for each array or table around its
deepest part. -/
def Value.inlineDepth : Value → Nat
  | .table es => entriesDepth es + 1
  | .array items => itemsDepth items + 1
  | _ => 0

/-- The deepest inline nesting among the values of entries. -/
def entriesDepth : List (String × Value) → Nat
  | [] => 0
  | (_, v) :: rest => max v.inlineDepth (entriesDepth rest)

/-- The deepest inline nesting among items. -/
def itemsDepth : List Value → Nat
  | [] => 0
  | v :: rest => max v.inlineDepth (itemsDepth rest)

end

mutual

/-- The deepest nesting below a table written back at depth `d`: the parts of the
headers written, and the inline depth of the values written inline. -/
def tableNesting (d : Nat) : List (String × Value) → Nat
  | [] => 0
  | (_, v) :: rest => max (entryNesting (d + 1) v) (tableNesting d rest)

/-- The deepest nesting of an entry written back at depth `d`. -/
def entryNesting (d : Nat) : Value → Nat
  | .table es => max (if needsHeader es then d else 0) (tableNesting d es)
  | .array items =>
    if (Value.array items).ownsHeader then tablesNesting d items
    else (Value.array items).inlineDepth
  | _ => 0

/-- The deepest nesting of the items of an array of tables at depth `d`, each written
with a header. -/
def tablesNesting (d : Nat) : List Value → Nat
  | [] => 0
  | .table es :: rest => max (max d (tableNesting d es)) (tablesNesting d rest)
  | _ :: rest => tablesNesting d rest

end

/-- Whether a document, written back with a header for every table, reads again: no
header has `nestingLimit` parts or more, and no inline value nests that deeply. -/
def writesBack (doc : List (String × Value)) : Bool :=
  tableNesting 0 doc < nestingLimit

theorem plain_datetimeEntries (t : String) (h : isDatetimeText t = true) :
    (Value.table (datetimeEntries t)).plain? = some (.datetime t) := by
  simp [datetimeEntries, Value.plain?, markedDatetime?, h]

end SpaceTeamSite.Toml
