/-!
# TOML values

The values a TOML document holds once it is read. Tables keep their keys in the order
they were first written; a key appears at most once, which the reader guarantees.
Floats and date-times keep their text: nothing here computes with them, but they are a
kind of value of their own that a field of another kind must refuse.
-/

namespace SpaceTeamSite.Toml

/-- A TOML value. -/
inductive Value where
  | string (s : String)
  | integer (n : Int)
  | float (text : String)
  | boolean (b : Bool)
  | datetime (text : String)
  | array (items : List Value)
  | table (entries : List (String × Value))
  deriving Inhabited

/-- The value stored under `key` in a list of entries. -/
def lookup (entries : List (String × Value)) (key : String) : Option Value :=
  (entries.find? (·.1 == key)).map (·.2)

/-- Entries with `key` set to `v`: in place of the entry there, or else last. -/
def setEntry (entries : List (String × Value)) (key : String) (v : Value) :
    List (String × Value) :=
  if entries.any (·.1 == key) then entries.map fun e => if e.1 == key then (key, v) else e
  else entries ++ [(key, v)]

/-- The entries of a table, if the value is one. -/
def Value.entries? : Value → Option (List (String × Value))
  | .table es => some es
  | _ => none

/-- The text of a string value. -/
def Value.string? : Value → Option String
  | .string s => some s
  | _ => none

/-- The number of an integer value. -/
def Value.integer? : Value → Option Int
  | .integer n => some n
  | _ => none

end SpaceTeamSite.Toml
