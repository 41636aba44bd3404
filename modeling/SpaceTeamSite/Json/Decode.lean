import SpaceTeamSite.Json.Parse

/-!
# Reading records from JSON

A record is read from an object or from an array of its fields in declaration
order. From an object, members that name no field are skipped whatever they hold,
while a field named twice is an error, and so is a member name that is no text.
From an array, there may be fewer items than fields but not more. A field that is
not given takes its default.

`fieldsOf` does the part common to every record: it finds, for each field name,
the value given for it, if any. The field readers then say what a field accepts:
an optional field takes `null` as absent, a required text field with a default
does not.
-/

namespace SpaceTeamSite.Json

/-- Files object members into slots, one per field name. -/
def fileMembers (names : List String) :
    List (Str × Value) → List (Option Value) → Option (List (Option Value))
  | [], slots => some slots
  | (.unpaired, _) :: _, _ => none
  | (.text k, v) :: rest, slots =>
    match names.idxOf? k with
    | some i => if (slots.getD i none).isSome then none else fileMembers names rest (slots.set i (some v))
    | none => fileMembers names rest slots

/-- The value given for each field of a record, in field order. -/
def fieldsOf (names : List String) : Value → Option (List (Option Value))
  | .object members => fileMembers names members (names.map fun _ => none)
  | .array items =>
    if names.length < items.length then none
    else some (items.map some ++ List.replicate (names.length - items.length) none)
  | _ => none

/-- A text field that defaults to the empty text; `null` is not accepted. -/
def textField : Option Value → Option String
  | none => some ""
  | some v => v.text?

/-- An optional field read with `read`; absent and `null` both mean none. -/
def optionalField {α : Type} (read : Value → Option α) : Option Value → Option (Option α)
  | none => some none
  | some .null => some none
  | some v => (read v).map some

/-- A list field that defaults to the empty list; `null` is not accepted. -/
def listField {α : Type} (read : Value → Option α) : Option Value → Option (List α)
  | none => some []
  | some (.array items) => items.mapM read
  | some _ => none

theorem fieldsOf_length_object (names : List String) (members : List (Str × Value))
    {slots : List (Option Value)} (h : fieldsOf names (.object members) = some slots) :
    slots.length = names.length := by
  simp only [fieldsOf] at h
  suffices ∀ ms (acc : List (Option Value)), fileMembers names ms acc = some slots →
      slots.length = acc.length by
    simpa using this members _ h
  intro ms
  induction ms with
  | nil => intro acc h; simp [fileMembers] at h; simp [h]
  | cons m ms ih =>
    intro acc h
    obtain ⟨k, v⟩ := m
    cases k with
    | unpaired => simp [fileMembers] at h
    | text k =>
      simp only [fileMembers] at h
      split at h
      · split at h
        · simp at h
        · simpa using ih _ h
      · exact ih _ h

end SpaceTeamSite.Json
