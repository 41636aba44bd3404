import SpaceTeamSite.I18n.Catalog.Turkish
import SpaceTeamSite.I18n.Catalog.English
import SpaceTeamSite.I18n.Language
import SpaceTeamSite.I18n.Fallback

/-!
# Text tables

A text table is the builtin catalogue with per-language overrides on top. Looking
a key up comes in two strengths:

* `entry` is the text the table holds for a language, without any fallback. An
  override wins over the builtin text even when it is empty.
* `resolve` is what a reader sees: the entry if it is present and not empty,
  otherwise the primary language's entry as it stands, even if that is empty.

`missing` lists, in key order, the keys whose text a reader of a language gets
from the primary language instead.
-/

namespace SpaceTeamSite

/-- The builtin text of a key in a language, if the language's table has one. -/
def builtinText (key : TextKey) : Language → Option String
  | .turkish => some (Catalog.turkish key)
  | .english => Catalog.english key

/-- The builtin text of a key, falling back to Turkish for missing or empty entries. -/
def builtinResolve (key : TextKey) (lang : Language) : String :=
  (firstPresent [builtinText key lang, builtinText key .primary]).getD ""

/-- The key with a wire name, spelled exactly. -/
def TextKey.ofWire? (s : String) : Option TextKey := TextKey.all.find? (·.wire == s)

/-- Parses a wire name; anything else is an unknown key, reported as given. -/
def TextKey.parse (s : String) : Except ConfigError TextKey :=
  match TextKey.ofWire? s with
  | some k => .ok k
  | none => .error (.unknownTextKey s)

/-- One override: in `lang`, key `key` reads `text`. -/
structure Override where
  lang : Language
  key : TextKey
  text : String
  deriving DecidableEq, Repr

/-- The builtin texts with overrides on top. Later overrides come first in the
list and win over earlier ones for the same language and key. -/
structure TextTable where
  overrides : List Override := []
  deriving Repr

namespace TextTable

/-- The table with the builtin texts only. -/
def builtin : TextTable := {}

/-- Adds an override; it wins over every earlier one for its language and key. -/
def insert (t : TextTable) (o : Override) : TextTable := ⟨o :: t.overrides⟩

/-- The override for a key in a language, if there is one. -/
def override? (t : TextTable) (lang : Language) (key : TextKey) : Option String :=
  (t.overrides.find? (fun o => o.lang == lang && o.key == key)).map (·.text)

/-- The text the table holds, without fallback: the override, else the builtin text. -/
def entry (t : TextTable) (lang : Language) (key : TextKey) : Option String :=
  (t.override? lang key).or (builtinText key lang)

/-- What a reader of `lang` sees for `key`. -/
def resolve (t : TextTable) (lang : Language) (key : TextKey) : String :=
  match firstPresent [t.entry lang key] with
  | some s => s
  | none => (t.entry .primary key).getD ""

/-- Keys whose text a reader of `lang` gets from the primary language, in key order. -/
def missing (t : TextTable) (lang : Language) : List TextKey :=
  if lang.isPrimary then []
  else TextKey.all.filter (fun k => (firstPresent [t.entry lang k]).isNone)

@[simp] theorem override?_builtin (lang : Language) (key : TextKey) :
    builtin.override? lang key = none := rfl

@[simp] theorem entry_builtin (lang : Language) (key : TextKey) :
    builtin.entry lang key = builtinText key lang := rfl

end TextTable

/-- A text table read in one language. -/
structure Localizer where
  table : TextTable
  lang : Language

/-- The text a reader sees for `key`. -/
def Localizer.text (l : Localizer) (key : TextKey) : String := l.table.resolve l.lang key

/-- A table read in `lang`. -/
def TextTable.localizer (t : TextTable) (lang : Language) : Localizer := ⟨t, lang⟩

end SpaceTeamSite
