import SpaceTeamSite.I18n.TextTable
import SpaceTeamSite.Toml.Document
import SpaceTeamSite.Toml.Decode

/-!
# Text overrides from a TOML document

An override document holds one table per language, named as `Language.parse` reads
names (so `[EN]` and `[english]` both name English), of wire names set to texts:

```
[en]
launchesEmpty = "Nothing on the pad."
```

The document must read as TOML and every section must be a table of strings; failing
that, it is malformed. Then every section name must be a language and every key a
wire name. Sections of one language merge, a later text winning over an earlier one.
-/

namespace SpaceTeamSite

/-- The sections of an override document, each with its texts, when every section is
a table of strings. -/
def overrideSections (doc : List (String × Toml.Value)) :
    Option (List (String × List (String × String))) :=
  doc.mapM fun (name, v) => do
    let es ← Toml.tableEntries? v
    let texts ← es.mapM fun (k, t) => t.string?.map (k, ·)
    some (name, texts)

/-- Adds the texts of one section for a language. -/
def TextTable.addSection (t : TextTable) (lang : Language) :
    List (String × String) → Except ConfigError TextTable
  | [] => .ok t
  | (k, text) :: rest => do
    let key ← TextKey.parse k
    (t.insert ⟨lang, key, text⟩).addSection lang rest

/-- Adds every section of an override document. -/
def TextTable.addSections (t : TextTable) :
    List (String × List (String × String)) → Except ConfigError TextTable
  | [] => .ok t
  | (name, texts) :: rest => do
    let lang ← Language.parse name
    let t ← t.addSection lang texts
    t.addSections rest

/-- The builtin table with the overrides of a TOML document on top. -/
def TextTable.ofToml (text : String) : Except ConfigError TextTable :=
  match Toml.parseDocument text >>= overrideSections with
  | some sections => TextTable.builtin.addSections sections
  | none => .error .malformedOverrides

end SpaceTeamSite
