import SpaceTeamSite.Error
import SpaceTeamSite.Text.Blank

/-!
# Languages

The site speaks Turkish, its primary language, and English. A language is named
in requests and documents by a code or a name, in any letter case and with blanks
around it; the site itself always writes the two-letter code.

Letter case is compared through `foldCase`, which maps to lower case every
character whose lower case can occur in an accepted name: the ASCII capitals, the
Kelvin sign (whose lower case is `k`), `Ü` and `Ç`. No other character has a lower
case among the letters of the accepted names, so a name is accepted exactly when
its full Unicode lower case is.
-/

namespace SpaceTeamSite

/-- A display language of the site. -/
inductive Language where
  | turkish
  | english
  deriving DecidableEq, Repr, Inhabited

namespace Language

/-- The language every missing text falls back to. -/
def primary : Language := .turkish

/-- Both languages, in the order the language switch shows them. -/
def all : List Language := [.turkish, .english]

/-- The two-letter code, which is also how a language is displayed. -/
def code : Language → String
  | .turkish => "tr"
  | .english => "en"

/-- The language's name for itself. -/
def nativeName : Language → String
  | .turkish => "Türkçe"
  | .english => "English"

/-- Whether this is the primary language. -/
def isPrimary (l : Language) : Bool := l == primary

/-- Lower case for the characters that matter to language names. -/
def foldCase (c : Char) : Char :=
  if 'A' ≤ c ∧ c ≤ 'Z' then Char.ofNat (c.toNat + 32)
  else if c = '\u212A' then 'k'
  else if c = 'Ü' then 'ü'
  else if c = 'Ç' then 'ç'
  else c

/-- The language a folded, trimmed name stands for. -/
def ofName? : String → Option Language
  | "tr" | "tr-tr" | "turkish" | "türkçe" => some .turkish
  | "en" | "en-gb" | "en-us" | "english" => some .english
  | _ => none

/-- Reads a language name: blanks around it are ignored and letter case does not
matter. An unknown name is reported as given. -/
def parse (s : String) : Except ConfigError Language :=
  match ofName? (String.ofList ((Text.trimList s.toList).map foldCase)) with
  | some l => .ok l
  | none => .error (.unsupportedLanguage s)

/-- The exact codes that configuration files accept. -/
def ofCode? : String → Option Language
  | "tr" => some .turkish
  | "en" => some .english
  | _ => none

theorem parse_code (l : Language) : parse l.code = .ok l := by
  cases l <;> rfl

theorem ofCode?_code (l : Language) : ofCode? l.code = some l := by
  cases l <;> rfl

end Language

end SpaceTeamSite
