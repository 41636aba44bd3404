import SpaceTeamSite.Proofs.TextLookup
import Mathlib.Data.List.Perm.Basic
import Mathlib.Data.List.Forall2

/-!
# Override documents in any order

An override document is read into a hash map of sections, each a hash map of texts, and
the table is built by visiting them in whatever order the maps hand them out. Here that
order is an argument: `Revisits doc visit` says that `visit` holds the document's
sections, each with its entries, in some order, and the table built is
`TextTable.builtin.addSections visit`. Reading in document order, as `TextTable.ofToml`
does, is one such order.

Whether the table is built does not depend on the order: it is, exactly when every
section names a language and every key is a wire name (`Accepted`). What the table holds
is the text last visited for each language and key, under whichever spelling of the
language its section uses. So the table does not depend on the order either, as long as
no two sections naming one language set one key to different texts (`Agrees`). Sections
that do, such as `[en]` and `[EN]`, make the text depend on the order.
-/

namespace SpaceTeamSite

/-- Sections of a document, each with its name and its texts by wire name. -/
abbrev Sections := List (String × List (String × String))

/-! ## Visiting orders -/

/-- Two sections with one name and the same texts, perhaps in another order. -/
def SameSection (s s' : String × List (String × String)) : Prop := s.1 = s'.1 ∧ s.2.Perm s'.2

/-- `visit` holds the sections of `doc`, each with its texts, in an order a hash map may
hand them out in: the sections in any order, and each one's texts in any order. -/
def Revisits (doc visit : Sections) : Prop :=
  ∃ mid, List.Forall₂ SameSection doc mid ∧ mid.Perm visit

/-- The document's own order is one of them. -/
theorem Revisits.refl (doc : Sections) : Revisits doc doc :=
  ⟨doc, List.forall₂_same.mpr fun _ _ => ⟨rfl, List.Perm.refl _⟩, List.Perm.refl _⟩

/-- A property of sections that one name and the same texts decide holds of all of some
sections exactly when it holds of all of them with their texts reordered. -/
theorem forall_iff_of_sameSections {doc mid : Sections} (hsame : List.Forall₂ SameSection doc mid)
    {P : String × List (String × String) → Prop} (hP : ∀ s s', SameSection s s' → (P s ↔ P s')) :
    (∀ s ∈ mid, P s) ↔ ∀ s ∈ doc, P s := by
  induction hsame with
  | nil => simp
  | cons hs _ ih => simp only [List.mem_cons, forall_eq_or_imp, hP _ _ hs, ih]

/-- Such a property holds of all the sections of a document exactly when it holds of all
of them in any order. -/
theorem Revisits.forall_iff {doc visit : Sections} (h : Revisits doc visit)
    {P : String × List (String × String) → Prop} (hP : ∀ s s', SameSection s s' → (P s ↔ P s')) :
    (∀ s ∈ visit, P s) ↔ ∀ s ∈ doc, P s := by
  obtain ⟨mid, hsame, hperm⟩ := h
  -- first undo the order of the sections, then that of each section's texts
  rw [← forall_iff_of_sameSections hsame hP]
  exact forall_congr' fun s => imp_congr_left hperm.mem_iff.symm

/-- Sections with their texts reordered set the same texts, reordered. -/
theorem documentTexts_perm_of_sameSections {doc mid : Sections}
    (hsame : List.Forall₂ SameSection doc mid) : (documentTexts doc).Perm (documentTexts mid) := by
  induction hsame with
  | nil => exact List.Perm.refl _
  | @cons s s' _ _ hs _ ih =>
    obtain ⟨name, texts⟩ := s
    obtain ⟨name', texts'⟩ := s'
    obtain ⟨hname, htexts⟩ := hs
    simp only at hname htexts
    subst hname
    simp only [documentTexts, List.flatMap_cons] at ih ⊢
    -- a section that names no language sets nothing, however its texts are ordered
    cases Language.parse name with
    | ok lang => exact (htexts.filterMap _).append ih
    | error e => exact ih

/-- Sections in another order set the same texts, in another order. -/
theorem Revisits.documentTexts_perm {doc visit : Sections} (h : Revisits doc visit) :
    (documentTexts visit).Perm (documentTexts doc) := by
  obtain ⟨mid, hsame, hperm⟩ := h
  exact (hperm.flatMap_right _).symm.trans (documentTexts_perm_of_sameSections hsame).symm

/-! ## Which documents are read -/

/-- A section the reader accepts: its name is a language and every key a wire name. -/
def Accepted (s : String × List (String × String)) : Prop :=
  (∃ lang, Language.parse s.1 = .ok lang) ∧ ∀ e ∈ s.2, ∃ key, TextKey.ofWire? e.1 = some key

theorem SameSection.accepted_iff {s s' : String × List (String × String)} (h : SameSection s s') :
    Accepted s ↔ Accepted s' := by
  unfold Accepted
  rw [h.1]
  exact and_congr_right fun _ => forall_congr' fun e => imp_congr_left h.2.mem_iff

/-- The texts of a section are added exactly when every key is a wire name. -/
theorem addSection_ok_iff (lang : Language) (texts : List (String × String)) :
    ∀ t : TextTable, (∃ t', t.addSection lang texts = .ok t') ↔
      ∀ e ∈ texts, ∃ key, TextKey.ofWire? e.1 = some key := by
  induction texts with
  | nil => intro t; simp [TextTable.addSection]
  | cons e rest ih =>
    intro t
    obtain ⟨w, text⟩ := e
    cases hk : TextKey.ofWire? w with
    | none =>
      -- an unknown key fails the section
      have hparse : TextKey.parse w = .error (.unknownTextKey w) := by simp [TextKey.parse, hk]
      simp [TextTable.addSection, hparse, hk, bind, Except.bind]
    | some key =>
      have hparse : TextKey.parse w = .ok key := TextKey.parse_eq_ok.mpr hk
      simp only [TextTable.addSection, hparse, bind, Except.bind, List.mem_cons, forall_eq_or_imp,
        hk, Option.some.injEq, exists_eq', true_and]
      exact ih _

/-- **A document's sections are added exactly when every one is accepted.** -/
theorem addSections_ok_iff (sections : Sections) :
    ∀ t : TextTable, (∃ t', t.addSections sections = .ok t') ↔ ∀ s ∈ sections, Accepted s := by
  induction sections with
  | nil => intro t; simp [TextTable.addSections]
  | cons s rest ih =>
    intro t
    obtain ⟨name, texts⟩ := s
    simp only [List.mem_cons, forall_eq_or_imp, Accepted]
    cases hl : Language.parse name with
    | error e => simp [TextTable.addSections, hl, bind, Except.bind]
    | ok lang =>
      cases ha : t.addSection lang texts with
      | error e =>
        -- the section itself is refused, so some key of it is unknown
        have hkeys : ¬ ∀ e ∈ texts, ∃ key, TextKey.ofWire? e.1 = some key := fun hall => by
          obtain ⟨t', ht'⟩ := (addSection_ok_iff lang texts t).mpr hall
          rw [ha] at ht'; cases ht'
        simp only [TextTable.addSections, hl, ha, bind, Except.bind, reduceCtorEq, exists_false,
          false_iff]
        exact fun h => hkeys h.1.2
      | ok t₁ =>
        have hkeys : ∀ e ∈ texts, ∃ key, TextKey.ofWire? e.1 = some key :=
          (addSection_ok_iff lang texts t).mp ⟨t₁, ha⟩
        simp only [TextTable.addSections, hl, ha, bind, Except.bind]
        rw [ih t₁]
        simp only [Accepted] at *
        exact ⟨fun h => ⟨⟨⟨lang, rfl⟩, hkeys⟩, h⟩, fun h => h.2⟩

/-! ## What the table holds -/

/-- No two texts a document sets for one key in one language differ. -/
def Agrees (doc : Sections) : Prop :=
  ∀ o ∈ documentTexts doc, ∀ o' ∈ documentTexts doc, o.lang = o'.lang → o.key = o'.key →
    o.text = o'.text

/-- Among texts that agree, the last one set for a language and key is any one set for
them, so reordering the texts does not change it. -/
theorem lastText_perm {os os' : List Override} (hperm : os.Perm os')
    (hagree : ∀ o ∈ os', ∀ o' ∈ os', o.lang = o'.lang → o.key = o'.key → o.text = o'.text)
    (lang : Language) (key : TextKey) :
    (os.reverse.find? fun o => o.lang == lang && o.key == key).map (·.text) =
      (os'.reverse.find? fun o => o.lang == lang && o.key == key).map (·.text) := by
  cases h : os.reverse.find? fun o => o.lang == lang && o.key == key with
  | none =>
    -- no text is set for them, in either order
    have hnone : (os'.reverse.find? fun o => o.lang == lang && o.key == key) = none := by
      rw [List.find?_eq_none] at h ⊢
      intro o ho
      exact h o (List.mem_reverse.mpr (hperm.mem_iff.mpr (List.mem_reverse.mp ho)))
    rw [hnone]
  | some o =>
    have ho := List.find?_some h
    have hmem : o ∈ os' := hperm.mem_iff.mp (List.mem_reverse.mp (List.mem_of_find?_eq_some h))
    cases h' : os'.reverse.find? fun o => o.lang == lang && o.key == key with
    | none =>
      rw [List.find?_eq_none] at h'
      exact absurd ho (h' o (List.mem_reverse.mpr hmem))
    | some o' =>
      have ho' := List.find?_some h'
      have hmem' : o' ∈ os' := List.mem_reverse.mp (List.mem_of_find?_eq_some h')
      simp only [Bool.and_eq_true, beq_iff_eq] at ho ho'
      simp only [Option.map_some, Option.some.injEq]
      exact hagree o hmem o' hmem' (ho.1.trans ho'.1.symm) (ho.2.trans ho'.2.symm)

/-- A table built from sections holds the last text visited for each language and key,
and the builtin text where none is set. -/
theorem addSections_entry {sections : Sections} {t : TextTable}
    (h : TextTable.builtin.addSections sections = .ok t) (lang : Language) (key : TextKey) :
    t.entry lang key = (documentText? sections lang key).or (builtinText key lang) := by
  have ho := addSections_overrides h
  simp only [TextTable.builtin, List.append_nil] at ho
  simp [TextTable.entry, TextTable.override?, documentText?, ho]

/-- **Sections that agree give one table in every order.** -/
theorem Revisits.documentText?_eq {doc visit : Sections} (h : Revisits doc visit)
    (hagree : Agrees doc) (lang : Language) (key : TextKey) :
    documentText? visit lang key = documentText? doc lang key :=
  lastText_perm h.documentTexts_perm hagree lang key

/-- The reader's own order is the document's. -/
theorem ofToml_eq_addSections {text : String} {doc : Sections}
    (hdoc : Toml.parseDocument text >>= overrideSections = some doc) :
    TextTable.ofToml text = TextTable.builtin.addSections doc := by
  unfold TextTable.ofToml
  rw [hdoc]

/-! ## The reading contract -/

/-- **An override document read in any order.** For a document of string tables and
any order in which its sections and their texts are visited: the table is built exactly
when every section names a language and every key is a wire name; it then holds, for
each language and key, the text last visited for them under any spelling of the
language, and the builtin text where none is set; and when no two sections naming one
language set one key differently, it is the table read in document order. -/
theorem override_document_any_visit {text : String} {doc visit : Sections}
    (hdoc : Toml.parseDocument text >>= overrideSections = some doc) (hv : Revisits doc visit) :
    TextTable.ofToml text = TextTable.builtin.addSections doc ∧
    ((∃ t, TextTable.builtin.addSections visit = .ok t) ↔ ∀ s ∈ doc, Accepted s) ∧
    (∀ t, TextTable.builtin.addSections visit = .ok t →
      ∀ lang key, t.entry lang key = (documentText? visit lang key).or (builtinText key lang)) ∧
    (Agrees doc → ∀ t t', TextTable.builtin.addSections visit = .ok t →
      TextTable.ofToml text = .ok t' → ∀ lang key, t.entry lang key = t'.entry lang key) := by
  have hread := ofToml_eq_addSections hdoc
  refine ⟨hread, ?_, fun t ht => addSections_entry ht, fun hagree t t' ht ht' lang key => ?_⟩
  · rw [addSections_ok_iff visit, hv.forall_iff fun _ _ hs => hs.accepted_iff]
  · rw [hread] at ht'
    rw [addSections_entry ht, addSections_entry ht', hv.documentText?_eq hagree]

/-- The document that names English twice, as `en` and as `EN`, read in document order. -/
theorem aliased_document_sections :
    Toml.parseDocument "[en]\nheroTitle = \"A\"\n[EN]\nheroTitle = \"B\"\n" >>= overrideSections =
      some [("en", [("heroTitle", "A")]), ("EN", [("heroTitle", "B")])] := by
  decide +kernel

/-- Read with its two sections the other way round, a document naming English as `en`
and as `EN` is still read, and holds the text last visited. -/
theorem reversed_sections_read :
    Toml.parseDocument "[en]\nheroTitle = \"A\"\n[EN]\nheroTitle = \"B\"\n" >>= overrideSections =
      some [("en", [("heroTitle", "A")]), ("EN", [("heroTitle", "B")])] ∧
    Revisits [("en", [("heroTitle", "A")]), ("EN", [("heroTitle", "B")])]
      [("EN", [("heroTitle", "B")]), ("en", [("heroTitle", "A")])] ∧
    ∀ t, TextTable.builtin.addSections [("EN", [("heroTitle", "B")]), ("en", [("heroTitle", "A")])] =
        .ok t → t.entry .english .heroTitle =
          (documentText? [("EN", [("heroTitle", "B")]), ("en", [("heroTitle", "A")])] .english
            .heroTitle).or (builtinText .heroTitle .english) := by
  have hdoc := aliased_document_sections
  have hv : Revisits [("en", [("heroTitle", "A")]), ("EN", [("heroTitle", "B")])]
      [("EN", [("heroTitle", "B")]), ("en", [("heroTitle", "A")])] :=
    ⟨_, List.forall₂_same.mpr fun _ _ => ⟨rfl, List.Perm.refl _⟩, List.Perm.swap _ _ []⟩
  exact ⟨hdoc, hv, fun t ht => (override_document_any_visit hdoc hv).2.2.1 t ht .english .heroTitle⟩

/-- **Sections that disagree make the table depend on the order.** The document names
English twice, as `en` and as `EN`, with two texts for one key; visited in document order
the table holds the second, visited the other way round the first. -/
theorem aliased_sections_depend_on_order :
    Toml.parseDocument "[en]\nheroTitle = \"A\"\n[EN]\nheroTitle = \"B\"\n" >>= overrideSections =
      some [("en", [("heroTitle", "A")]), ("EN", [("heroTitle", "B")])] ∧
    Revisits [("en", [("heroTitle", "A")]), ("EN", [("heroTitle", "B")])]
      [("EN", [("heroTitle", "B")]), ("en", [("heroTitle", "A")])] ∧
    (fun t : TextTable => t.entry .english .heroTitle) <$>
      TextTable.builtin.addSections [("en", [("heroTitle", "A")]), ("EN", [("heroTitle", "B")])] =
        .ok (some "B") ∧
    (fun t : TextTable => t.entry .english .heroTitle) <$>
      TextTable.builtin.addSections [("EN", [("heroTitle", "B")]), ("en", [("heroTitle", "A")])] =
        .ok (some "A") := by
  refine ⟨aliased_document_sections, ⟨_, List.forall₂_same.mpr fun _ _ => ⟨rfl, List.Perm.refl _⟩,
    List.Perm.swap _ _ []⟩, rfl, rfl⟩

end SpaceTeamSite
