/-!
# Escaping text for HTML

Text placed in element content or in a double-quoted attribute value has its
ampersands, angle brackets and double quotes written as character references.
Everything else, the apostrophe and all non-ASCII text included, is kept.
-/

namespace SpaceTeamSite.Text

/-- The character reference that stands for `c`, if `c` needs one. -/
def reference? : Char → Option String
  | '&' => some "&amp;"
  | '<' => some "&lt;"
  | '>' => some "&gt;"
  | '"' => some "&quot;"
  | _ => none

/-- Escapes a list of characters, one character at a time. -/
def escapeList : List Char → List Char
  | [] => []
  | c :: cs =>
    match reference? c with
    | some r => r.toList ++ escapeList cs
    | none => c :: escapeList cs

/-- Escapes a text for element content and double-quoted attribute values. -/
def escape (s : String) : String := String.ofList (escapeList s.toList)

theorem escapeList_append (a b : List Char) :
    escapeList (a ++ b) = escapeList a ++ escapeList b := by
  induction a with
  | nil => rfl
  | cons c cs ih =>
    simp only [List.cons_append, escapeList]
    cases reference? c <;> simp [ih]

end SpaceTeamSite.Text
