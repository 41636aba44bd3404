import Mathlib.Data.List.Basic
import SpaceTeamSite.Cli.Reports
import SpaceTeamSite.I18n.Overrides

/-!
# How a text is looked up

A text table answers for a key and a language at two strengths. `entry` is what
the table holds: the override if there is one, even an empty one, else the builtin
text, which Turkish always has and English lacks for two keys. `resolve` is what a
reader sees: the entry when it is a non-empty text, and otherwise the primary
language's entry exactly as it stands.

Everything that shows texts goes through `resolve`: the localizer the page draws
with, and `builtinResolve` for the bare catalogue, which chains its two candidates
through `firstPresent` and still lands on the same text. The audit goes the other
way round: `missing` lists the keys whose entry is absent or empty, which are exactly
the keys a reader sees in the primary language, and the `keys` report prints that
list with its counts.

The second half reads a table off an override document. Sections that name the same
language under different spellings merge, and the text a document sets last for a
language and key is the one the table holds.
-/

namespace SpaceTeamSite

/-! ## The builtin catalogues -/

/-- Every key has a non-empty Turkish text. -/
theorem turkish_ne_empty (k : TextKey) : Catalog.turkish k ≠ "" := by
  cases k <;> simp [Catalog.turkish]

/-- English has a text for every key but the brand title and the picture credit. -/
theorem english_eq_none_iff (k : TextKey) :
    Catalog.english k = none ↔ k = .pageTitle ∨ k = .apodSource := by
  cases k <;> decide

theorem TextKey.mem_all (k : TextKey) : k ∈ TextKey.all := by
  cases k <;> decide

theorem TextKey.nodup_all : TextKey.all.Nodup := by decide

/-- A single candidate counts when it is present and not empty. -/
@[simp] theorem firstPresent_singleton (o : Option String) :
    firstPresent [o] = o.filter fun s => !s.isEmpty := by
  cases o with
  | none => rfl
  | some s => by_cases h : s.isEmpty <;> simp [firstPresent, h, Option.filter]

namespace TextTable

variable (t : TextTable) (lang : Language) (key : TextKey)

/-- Whether the table holds a text a reader can see: present and not empty. -/
def defines : Bool := (t.entry lang key).any fun s => !s.isEmpty

theorem entry_primary :
    t.entry .primary key = some ((t.override? .primary key).getD (Catalog.turkish key)) := by
  unfold entry
  cases t.override? .primary key <;> rfl

/-- The primary language always has an entry. -/
theorem entry_primary_isSome : (t.entry .primary key).isSome := by
  rw [entry_primary]; rfl

/-- The primary entry is empty only when an override makes it so. -/
theorem entry_primary_eq_empty_iff :
    t.entry .primary key = some "" ↔ t.override? .primary key = some "" := by
  rw [entry_primary]
  cases h : t.override? .primary key with
  | none => simpa using turkish_ne_empty key
  | some s => simp

/-- A reader sees the entry when it is a non-empty text and otherwise the primary
language's entry as it stands. -/
theorem resolve_eq :
    t.resolve lang key =
      if t.defines lang key then (t.entry lang key).getD ""
      else (t.entry .primary key).getD "" := by
  unfold resolve defines
  cases t.entry lang key with
  | none => simp
  | some s => by_cases h : s.isEmpty <;> simp [Option.filter, h]

/-- A table defines no empty text: what it defines is present and not empty. -/
theorem defines_iff :
    t.defines lang key = true ↔ ∃ s, t.entry lang key = some s ∧ s ≠ "" := by
  unfold defines
  cases t.entry lang key <;> simp

/-- A reader sees an empty text exactly when the primary entry was overridden to be
empty and the reader's own entry does not count: because it is the primary one, or
because it is absent or empty. -/
theorem resolve_eq_empty_iff :
    t.resolve lang key = "" ↔
      t.override? .primary key = some "" ∧ (lang = .primary ∨ t.defines lang key = false) := by
  rw [resolve_eq]
  cases hd : t.defines lang key with
  | true =>
    obtain ⟨s, hs, hne⟩ := (t.defines_iff lang key).mp hd
    -- the reader's own text is shown; if it is the primary one, its entry is not empty
    have hprim : lang = .primary → t.override? .primary key ≠ some "" := by
      rintro rfl hover
      rw [← entry_primary_eq_empty_iff] at hover
      exact hne (Option.some.inj (hs.symm.trans hover))
    simp only [if_true, hs, Option.getD_some, hne, false_iff, not_and, Bool.true_eq_false,
      or_false]
    exact fun hover hl => hprim hl hover
  | false =>
    simp only [Bool.false_eq_true, if_false, or_true, and_true]
    rw [← entry_primary_eq_empty_iff]
    obtain ⟨s, hs⟩ := Option.isSome_iff_exists.mp (t.entry_primary_isSome key)
    simp [hs]

/-! ## The audit -/

theorem missing_primary : t.missing .primary = [] := rfl

/-- Outside the primary language the audit lists, in key order, the keys the language
does not define. -/
theorem missing_english :
    t.missing .english = TextKey.all.filter fun k => !t.defines .english k := by
  unfold missing defines
  rw [if_neg (by decide)]
  congr 1
  funext k
  cases t.entry .english k <;> simp

theorem mem_missing_english : key ∈ t.missing .english ↔ t.defines .english key = false := by
  simp [missing_english, TextKey.mem_all]

/-- No key is listed twice. -/
theorem nodup_missing : (t.missing lang).Nodup := by
  cases lang with
  | turkish => exact List.nodup_nil
  | english => rw [missing_english]; exact TextKey.nodup_all.filter _

/-- The keys English defines and the keys it misses make up all keys. -/
theorem defined_count_english :
    TextKey.all.length - (t.missing .english).length =
      (TextKey.all.filter (t.defines .english)).length := by
  rw [missing_english, List.length_eq_length_filter_add (t.defines .english)]
  omega

end TextTable

/-- The audit of English: how many keys it defines out of all, how many fall back to
the primary language, then the keys that do, one per line in key order. -/
theorem keysReport_english (t : TextTable) :
    Cli.keysReport t .english =
      Language.english.nativeName ++ ": " ++
        toString (TextKey.all.filter (t.defines .english)).length ++
        "/" ++ toString TextKey.all.length ++ " keys defined, " ++
        toString (t.missing .english).length ++ " fall back to " ++ Language.primary.nativeName ++
        "\n" ++ String.join ((t.missing .english).map fun k => "  " ++ k.wire ++ "\n") := by
  unfold Cli.keysReport
  rw [if_neg (by decide), ← t.defined_count_english]

/-! ## The bare catalogue -/

/-- The first present candidate is the first one's text if it counts, else the first
present of the rest. -/
theorem firstPresent_cons (o : Option String) (rest : List (Option String)) :
    firstPresent (o :: rest) = (o.filter fun s => !s.isEmpty).or (firstPresent rest) := by
  cases o with
  | none => rfl
  | some s => by_cases h : s.isEmpty <;> simp [firstPresent, h, Option.filter]

/-- Keeping a single candidate only if it is not empty, then falling back to the empty
text, leaves its text as it is. -/
theorem getD_filter_nonempty (o : Option String) :
    (o.filter fun s => !s.isEmpty).getD "" = o.getD "" := by
  cases o with
  | none => rfl
  | some s => by_cases h : s.isEmpty <;> simp_all [Option.filter, String.isEmpty_iff]

/-- The catalogue lookup agrees with resolving in the table without overrides. -/
theorem builtinResolve_eq_resolve (key : TextKey) (lang : Language) :
    builtinResolve key lang = TextTable.builtin.resolve lang key := by
  unfold builtinResolve TextTable.resolve
  simp only [firstPresent_cons, firstPresent_nil, Option.or_none, TextTable.entry_builtin]
  cases (builtinText key lang).filter fun s => !s.isEmpty with
  | some s => rfl
  | none => exact getD_filter_nonempty (builtinText key .primary)

/-! ## Tables read from a document -/

/-- The texts one section of a document sets for `lang`, in order, each for the key its
wire name names. -/
def sectionTexts (lang : Language) (texts : List (String × String)) : List Override :=
  texts.filterMap fun (w, text) => (TextKey.ofWire? w).map fun key => ⟨lang, key, text⟩

/-- The texts a document sets, in document order, for the sections that name a
language. -/
def documentTexts (sections : List (String × List (String × String))) : List Override :=
  sections.flatMap fun (name, texts) =>
    match Language.parse name with
    | .ok lang => sectionTexts lang texts
    | .error _ => []

/-- The text a document sets for a key in a language: the last one it sets, whichever
spelling of the language its section uses. -/
def documentText? (sections : List (String × List (String × String))) (lang : Language)
    (key : TextKey) : Option String :=
  ((documentTexts sections).reverse.find? fun o => o.lang == lang && o.key == key).map (·.text)

theorem TextKey.parse_eq_ok {w : String} {key : TextKey} :
    TextKey.parse w = .ok key ↔ TextKey.ofWire? w = some key := by
  unfold TextKey.parse
  cases TextKey.ofWire? w <;> simp

/-- Adding a section puts its texts in front of the table's overrides, the last on top. -/
theorem addSection_overrides {lang : Language} :
    ∀ {texts : List (String × String)} {t t' : TextTable},
      t.addSection lang texts = .ok t' →
        t'.overrides = (sectionTexts lang texts).reverse ++ t.overrides
  | [], t, t', h => by
    cases h
    rfl
  | (w, text) :: rest, t, t', h => by
    -- an unknown key fails the whole section, which `h` rules out
    cases hk : TextKey.parse w with
    | error e => simp [TextTable.addSection, hk, bind, Except.bind] at h
    | ok key =>
      have h' : (t.insert ⟨lang, key, text⟩).addSection lang rest = .ok t' := by
        simpa [TextTable.addSection, hk, bind, Except.bind] using h
      have hw : TextKey.ofWire? w = some key := TextKey.parse_eq_ok.mp hk
      rw [addSection_overrides h']
      simp [sectionTexts, hw, TextTable.insert]

/-- Adding the sections of a document puts all its texts in front, the last on top. -/
theorem addSections_overrides :
    ∀ {sections : List (String × List (String × String))} {t t' : TextTable},
      t.addSections sections = .ok t' →
        t'.overrides = (documentTexts sections).reverse ++ t.overrides
  | [], t, t', h => by
    cases h
    rfl
  | (name, texts) :: rest, t, t', h => by
    cases hl : Language.parse name with
    | error e => simp [TextTable.addSections, hl, bind, Except.bind] at h
    | ok lang =>
      cases ha : t.addSection lang texts with
      | error e => simp [TextTable.addSections, hl, ha, bind, Except.bind] at h
      | ok t₁ =>
        have h' : t₁.addSections rest = .ok t' := by
          simpa [TextTable.addSections, hl, ha, bind, Except.bind] using h
        rw [addSections_overrides h', addSection_overrides ha]
        simp [documentTexts, hl]

/-- A table read from a document holds, for every language and key, the last text the
document sets for them, and the builtin text where it sets none. -/
theorem ofToml_entry {text : String} {t : TextTable} (h : TextTable.ofToml text = .ok t) :
    ∃ sections, Toml.parseDocument text >>= overrideSections = some sections ∧
      ∀ lang key,
        t.entry lang key = (documentText? sections lang key).or (builtinText key lang) := by
  unfold TextTable.ofToml at h
  cases hs : Toml.parseDocument text >>= overrideSections with
  | none => rw [hs] at h; cases h
  | some sections =>
    rw [hs] at h
    refine ⟨sections, rfl, fun lang key => ?_⟩
    -- the builtin table has no overrides, so the table's are the document's
    have ho := addSections_overrides h
    simp only [TextTable.builtin, List.append_nil] at ho
    simp [TextTable.entry, TextTable.override?, documentText?, ho]

/-! ## The lookup contract -/

/-- **How every table answers.** The builtin Turkish table is complete and English lacks
exactly two keys; a table holds the builtin texts under the last overrides its document
sets. A reader sees a defined entry as it is and otherwise the Turkish entry as it is,
so sees nothing only where Turkish was overridden to be empty; the localizer and the
bare catalogue lookup agree with that. The audit lists, in key order and once each,
exactly the keys English leaves to Turkish, and the `keys` report prints that list
with its counts. -/
theorem text_lookup_contract :
    (∀ k, ∃ s, builtinText k .turkish = some s ∧ s ≠ "") ∧
    (∀ k, builtinText k .english = none ↔ k = .pageTitle ∨ k = .apodSource) ∧
    (∀ l k, TextTable.builtin.entry l k = builtinText k l) ∧
    (∀ text (T : TextTable), TextTable.ofToml text = .ok T →
      ∃ sections, Toml.parseDocument text >>= overrideSections = some sections ∧
        ∀ l k, T.entry l k = (documentText? sections l k).or (builtinText k l)) ∧
    (∀ (T : TextTable) l k,
      (T.defines l k = true ↔ ∃ s, T.entry l k = some s ∧ s ≠ "") ∧
      (T.entry .turkish k).isSome ∧
      T.resolve l k =
        if T.defines l k then (T.entry l k).getD "" else (T.entry .turkish k).getD "") ∧
    (∀ (T : TextTable) l k, T.resolve l k = "" ↔
      T.override? .turkish k = some "" ∧ (l = .turkish ∨ T.defines l k = false)) ∧
    (∀ (T : TextTable) l k, (T.localizer l).text k = T.resolve l k) ∧
    (∀ l k, builtinResolve k l = TextTable.builtin.resolve l k) ∧
    (∀ T : TextTable, T.missing .turkish = [] ∧
      T.missing .english = TextKey.all.filter (fun k => !T.defines .english k) ∧
      (T.missing .english).Nodup) ∧
    (∀ T : TextTable, Cli.keysReport T .english =
      Language.english.nativeName ++ ": " ++
        toString (TextKey.all.filter (T.defines .english)).length ++ "/" ++
        toString TextKey.all.length ++ " keys defined, " ++
        toString (T.missing .english).length ++ " fall back to " ++
        Language.turkish.nativeName ++ "\n" ++
        String.join ((T.missing .english).map fun k => "  " ++ k.wire ++ "\n")) := by
  refine ⟨fun k => ⟨_, rfl, turkish_ne_empty k⟩, english_eq_none_iff, TextTable.entry_builtin,
    fun _ _ h => ofToml_entry h, fun T l k => ?_, fun T l k => T.resolve_eq_empty_iff l k,
    fun _ _ _ => rfl, fun l k => builtinResolve_eq_resolve k l,
    fun T => ⟨T.missing_primary, T.missing_english, T.nodup_missing .english⟩,
    keysReport_english⟩
  exact ⟨T.defines_iff l k, T.entry_primary_isSome k, T.resolve_eq l k⟩

/-- Two accepted documents. The empty one reads as the builtin table. One that empties
the English hero title reads as that single override: the English entry is the empty
text, and a reader of English gets the Turkish title instead. -/
theorem override_documents_read :
    (TextTable.ofToml "" = .ok TextTable.builtin ∧
      ∃ sections, Toml.parseDocument "" >>= overrideSections = some sections ∧
        ∀ l k, TextTable.builtin.entry l k = (documentText? sections l k).or (builtinText k l)) ∧
    (TextTable.ofToml "[en]\nheroTitle = \"\"\n" = .ok ⟨[⟨.english, .heroTitle, ""⟩]⟩ ∧
      ∃ sections, Toml.parseDocument "[en]\nheroTitle = \"\"\n" >>= overrideSections = some sections ∧
        ∀ l k, TextTable.entry ⟨[⟨.english, .heroTitle, ""⟩]⟩ l k =
          (documentText? sections l k).or (builtinText k l)) ∧
    TextTable.entry ⟨[⟨.english, .heroTitle, ""⟩]⟩ .english .heroTitle = some "" ∧
    TextTable.resolve ⟨[⟨.english, .heroTitle, ""⟩]⟩ .english .heroTitle = Catalog.turkish .heroTitle := by
  -- the document is read in the kernel, and the table rebuilt from the overrides it holds
  have hread : ((TextTable.ofToml "[en]\nheroTitle = \"\"\n").toOption.map (·.overrides)) =
      some [⟨.english, .heroTitle, ""⟩] := by
    decide +kernel
  have hemptied : TextTable.ofToml "[en]\nheroTitle = \"\"\n" = .ok ⟨[⟨.english, .heroTitle, ""⟩]⟩ := by
    cases hc : TextTable.ofToml "[en]\nheroTitle = \"\"\n" with
    | error e =>
      rw [hc] at hread
      simp only [Except.toOption, Option.map_none, reduceCtorEq] at hread
    | ok T =>
      rw [hc] at hread
      simp only [Except.toOption, Option.map_some, Option.some.injEq] at hread
      obtain ⟨overrides⟩ := T
      subst hread
      rfl
  exact ⟨⟨rfl, text_lookup_contract.2.2.2.1 "" .builtin rfl⟩,
    ⟨hemptied, text_lookup_contract.2.2.2.1 _ _ hemptied⟩, by decide, by decide⟩

end SpaceTeamSite
