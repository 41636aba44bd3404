import SpaceTeamSite.Toml.Value

/-!
# The table tree of a document being read

While a document is read, its tables stay open to later lines, and what a line may add
depends on how each table came to be. A table is *implicit* when it was only named on
the way to another one, and *dotted* when a dotted key made it. A header may define an
implicit table that no dotted key made, once; a dotted key may only walk through and
add to tables that dotted keys made; a value, an inline table or an array written with
`[...]` is closed to both. An array of tables grows by one table per `[[...]]` header,
and paths lead into its last table.

All changes go through `withTable`, which walks a path of keys from a table, making the
missing tables on the way, and hands the table at its end to a callback.
-/

namespace SpaceTeamSite.Toml

/-- A node of the tree: a closed value, an open table with its flags, or an array of
tables. -/
inductive Node where
  | value (v : Value)
  | table (entries : List (String × Node)) (implicit dotted : Bool)
  | tables (items : List (List (String × Node)))

/-- The entries of an open table. -/
abbrev Entries := List (String × Node)

namespace Tree

/-- The node stored under `key`. -/
def find? (es : Entries) (key : String) : Option Node :=
  (es.find? (·.1 == key)).map (·.2)

/-- Stores `n` under `key`, in place of the node there or else last. -/
def store (es : Entries) (key : String) (n : Node) : Entries :=
  if es.any (·.1 == key) then es.map fun e => if e.1 == key then (key, n) else e
  else es ++ [(key, n)]

/-- Walks `path` from a table with entries `es` and dotted flag `d`, and applies `f` to
the entries and dotted flag of the table at its end. Missing tables are made implicit
(and dotted when `dotted`); when `dotted`, a table that is not implicit may not be
walked through. Answers the new entries, or `none` if a step meets a closed value, the
walk is refused, or `f` refuses. -/
def withTable (dotted : Bool) (f : Entries → Bool → Option Entries) :
    List String → Entries → Bool → Option Entries
  | [], es, d => f es d
  | key :: path, es, _ =>
    match find? es key with
    | none => do
      let inner ← withTable dotted f path [] dotted
      some (store es key (.table inner true dotted))
    | some (.value _) => none
    | some (.tables items) =>
      match items.getLast? with
      | none => none
      | some last => do
        let inner ← withTable dotted f path last false
        some (store es key (.tables (items.dropLast ++ [inner])))
    | some (.table inner implicit d) =>
      if dotted && !implicit then none
      else do
        let inner' ← withTable dotted f path inner d
        some (store es key (.table inner' implicit d))

/-- Adds `key = v` to the table reached by the dotted path `path`: the table must have
been made by dotted keys exactly when the path is not empty, and must not hold `key`. -/
def addValue (path : List String) (key : String) (v : Value) (es : Entries) (d : Bool) :
    Option Entries :=
  withTable true (fun es' d' =>
    if d' == path.isEmpty then none
    else match find? es' key with
      | some _ => none
      | none => some (es' ++ [(key, .value v)])) path es d

/-- Defines the table `key` under a header: a new table, or an implicit one that no
dotted key made. -/
def openTable (key : String) (es : Entries) : Option Entries :=
  match find? es key with
  | none => some (es ++ [(key, .table [] false false)])
  | some (.table inner true false) => some (store es key (.table inner false false))
  | some _ => none

/-- Adds one table to the array of tables `key`, making the array if it is missing. -/
def appendTable (key : String) (es : Entries) : Option Entries :=
  match find? es key with
  | none => some (es ++ [(key, .tables [[]])])
  | some (.tables items) => some (store es key (.tables (items ++ [[]])))
  | some _ => none

mutual

/-- The value a node stands for once the document is read. -/
def nodeValue : Node → Value
  | .value v => v
  | .table es _ _ => .table (entriesToValue es)
  | .tables items => .array (tablesToValue items)

/-- The entries of a table as value entries. -/
def entriesToValue : Entries → List (String × Value)
  | [] => []
  | (k, n) :: rest => (k, nodeValue n) :: entriesToValue rest

/-- The tables of an array of tables as values. -/
def tablesToValue : List Entries → List Value
  | [] => []
  | es :: rest => .table (entriesToValue es) :: tablesToValue rest

end

end Tree

end SpaceTeamSite.Toml
