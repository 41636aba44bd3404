import SpaceTeamSite.Toml.Value

/-!
# Typed fields of TOML values

The rules by which a TOML value fills a typed field. A record is read from a table,
by key, with other keys ignored, or from an array, by position, with items past the
last field ignored; a field that is absent takes its default. Text fields take only
strings, and number fields only integers within the field's range: a float, even a
whole one, is refused.

A datetime read where a table is expected is the table of one entry, its text under
`datetimeKey`. A record read from it finds none of its fields there and so takes its
defaults; a table of texts read from it has that one key.
-/

namespace SpaceTeamSite.Toml

/-- The key of the one entry a datetime has when it is read as a table. -/
def datetimeKey : String := "$__toml_private_datetime"

/-- The entries of a datetime read as a table. -/
def datetimeEntries (text : String) : List (String × Value) := [(datetimeKey, .string text)]

/-- The values of a record's fields, by name from a table or by position from an
array. -/
def fieldsOf (names : List String) : Value → Option (List (Option Value))
  | .table es => some (names.map (lookup es))
  | .datetime t => some (names.map (lookup (datetimeEntries t)))
  | .array items => some ((List.range names.length).map (items[·]?))
  | _ => none

/-- A field's value read by `read`, or its default when absent. -/
def fieldOr {α : Type} (read : Value → Option α) (dflt : α) : Option Value → Option α
  | some v => read v
  | none => some dflt

/-- An integer within `lo..hi`. -/
def boundedInt (lo hi : Int) (v : Value) : Option Int := do
  let n ← v.integer?
  if lo ≤ n ∧ n ≤ hi then some n else none

/-- An integer within `0..hi`, as a natural number. -/
def boundedNat (hi : Nat) (v : Value) : Option Nat :=
  (boundedInt 0 hi v).map Int.toNat

/-- A table or an inline table: its entries; a datetime has its one entry, and arrays
and other values are refused. -/
def tableEntries? : Value → Option (List (String × Value))
  | .table es => some es
  | .datetime t => some (datetimeEntries t)
  | _ => none

theorem fieldsOf_length (names : List String) (v : Value) (fs : List (Option Value))
    (h : fieldsOf names v = some fs) : fs.length = names.length := by
  cases v <;> simp [fieldsOf] at h <;> subst h <;> simp

end SpaceTeamSite.Toml
