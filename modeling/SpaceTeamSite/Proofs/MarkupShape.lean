import SpaceTeamSite.Site.Page

/-!
# The markup of a page follows its shape

A page is fixed markup with texts spliced in, and every text that comes from outside
the code is escaped on the way in: the site's name, every text of the table, every field
of a record. Escaped text holds none of `<`, `>` and `"`, so no such text can open,
close or reshape a tag or an attribute value.

The statement is a two-run one. The markup characters of a text are its `<`, `>` and
`"`, in order (`markupChars`). Two pages drawn with the same parameters, from widget
views of the same shape, have the same markup characters, whatever their texts: the
shape of a launches view is its state, the cards' optional lines, the placeholder count
and the control; that of a picture view is its state and which of an image, a message
and a date it has.

Each section of the page gets one lemma relating its markup under two contexts, and the
widgets one lemma each relating two views of one shape; the page's theorem puts them
together.
-/

namespace SpaceTeamSite.Site

open Text

/-! ## Markup characters -/

/-- The characters that open and close tags and attribute values. -/
def isMarkup (c : Char) : Bool := c == '<' || c == '>' || c == '"'

/-- The markup characters of a text, in order. -/
def markupChars (s : String) : List Char := s.toList.filter isMarkup

@[simp] theorem markupChars_append (a b : String) :
    markupChars (a ++ b) = markupChars a ++ markupChars b := by
  simp [markupChars, List.filter_append]

theorem markupChars_join (xs : List String) :
    markupChars (String.join xs) = (xs.map markupChars).flatten := by
  induction xs with
  | nil => rfl
  | cons x rest ih => rw [String.join_cons, markupChars_append, ih]; rfl

@[simp] theorem markupChars_each {α : Type} (xs : List α) (f : α → String) :
    markupChars (each xs f) = (xs.map fun x => markupChars (f x)).flatten := by
  rw [each, markupChars_join, List.map_map]
  rfl

@[simp] theorem markupChars_ite {c : Prop} [Decidable c] (a b : String) :
    markupChars (if c then a else b) = if c then markupChars a else markupChars b := by
  split <;> rfl

/-- A character reference holds no markup character. -/
theorem filter_isMarkup_reference {c : Char} {r : String} (h : reference? c = some r) :
    r.toList.filter isMarkup = [] := by
  unfold reference? at h
  split at h
  all_goals cases h
  all_goals decide

/-- A character without a reference is no markup character. -/
theorem isMarkup_eq_false_of_reference {c : Char} (h : reference? c = none) :
    isMarkup c = false := by
  simp only [isMarkup, Bool.or_eq_false_iff, beq_eq_false_iff_ne, ne_eq]
  refine ⟨⟨?_, ?_⟩, ?_⟩ <;> rintro rfl <;> simp [reference?] at h

theorem filter_isMarkup_escapeList (l : List Char) : (escapeList l).filter isMarkup = [] := by
  induction l with
  | nil => rfl
  | cons c cs ih =>
    simp only [escapeList]
    cases hr : reference? c with
    | some r => rw [List.filter_append, filter_isMarkup_reference hr, ih]; rfl
    | none => rw [List.filter_cons, isMarkup_eq_false_of_reference hr]; exact ih

/-- **Escaped text holds no markup character.** -/
@[simp] theorem markupChars_escape (s : String) : markupChars (escape s) = [] := by
  rw [markupChars, escape, String.toList_ofList, filter_isMarkup_escapeList]

@[simp] theorem markupChars_t (page : PageContext) (key : TextKey) :
    markupChars (page.t key) = [] :=
  markupChars_escape _

/-- Two options that are both there or both absent. -/
theorem isSome_eq_isSome_cases {α β : Type} {o₁ : Option α} {o₂ : Option β}
    (h : o₁.isSome = o₂.isSome) :
    (o₁ = none ∧ o₂ = none) ∨ ∃ a b, o₁ = some a ∧ o₂ = some b := by
  cases o₁ <;> cases o₂ <;> simp_all

/-! ## Shapes -/

/-- Which optional lines a card has: an image, a mission and a status. -/
def LaunchCard.shape (c : LaunchCard) : Bool × Bool × Bool :=
  (c.imageUrl.isSome, c.mission.isSome, c.status.isSome)

/-- What of a launches view its markup can depend on: the state, the cards' optional lines,
the number of placeholders and the control. -/
def LaunchesView.shape (v : LaunchesView) :
    String × List (Bool × Bool × Bool) × Nat × Bool × Bool :=
  (v.state, v.cards.map LaunchCard.shape, v.initial, v.canShowMore, v.expanded)

/-- What of a picture view its markup can depend on: the state and whether there is an
image, a message and a date. -/
def PictureView.shape (v : PictureView) : String × Bool × Bool × Bool :=
  (v.state, v.imageUrl.isSome, v.message.isSome, v.date.isSome)

/-! ## The sections -/

section Sections

variable (page₁ page₂ : PageContext)

theorem markupChars_header (hparams : page₁.params = page₂.params) :
    markupChars (header page₁) = markupChars (header page₂) := by
  unfold header
  simp only [markupChars_append, markupChars_each, markupChars_t, markupChars_escape, hparams]

theorem markupChars_hero : markupChars (hero page₁) = markupChars (hero page₂) := by
  unfold hero
  simp only [markupChars_append, markupChars_t]

theorem markupChars_metricsBand :
    markupChars (metricsBand page₁) = markupChars (metricsBand page₂) := by
  unfold metricsBand
  simp only [markupChars_append, markupChars_each, markupChars_t, markupChars_escape]

theorem markupChars_textList (keys : List TextKey) :
    markupChars (textList page₁ keys) = markupChars (textList page₂ keys) := by
  unfold textList
  simp only [markupChars_append, markupChars_each, markupChars_t]

theorem markupChars_project : markupChars (project page₁) = markupChars (project page₂) := by
  unfold project
  simp only [markupChars_append, markupChars_each, markupChars_t, markupChars_escape,
    markupChars_textList page₁ page₂]

theorem markupChars_team : markupChars (team page₁) = markupChars (team page₂) := by
  unfold team
  simp only [markupChars_append, markupChars_each, markupChars_t]

theorem markupChars_contactLinksHtml :
    markupChars (contactLinksHtml page₁) = markupChars (contactLinksHtml page₂) := by
  unfold contactLinksHtml
  simp only [markupChars_append, markupChars_each, markupChars_t, markupChars_escape]

theorem markupChars_sponsor : markupChars (sponsor page₁) = markupChars (sponsor page₂) := by
  unfold sponsor
  -- the tiers are fixed: reading them settles each optional badge
  simp only [markupChars_append, markupChars_each, markupChars_t, sponsorTiers, List.map_cons,
    List.map_nil, markupChars_textList page₁ page₂,
    markupChars_contactLinksHtml page₁ page₂]

theorem markupChars_join_section : markupChars (join page₁) = markupChars (join page₂) := by
  unfold join
  simp only [markupChars_append, markupChars_each, markupChars_t, markupChars_escape]

theorem markupChars_contact : markupChars (contact page₁) = markupChars (contact page₂) := by
  unfold contact
  simp only [markupChars_append, markupChars_t, markupChars_contactLinksHtml page₁ page₂]

theorem markupChars_footer : markupChars (footer page₁) = markupChars (footer page₂) := by
  unfold footer
  simp only [markupChars_append, markupChars_t]

/-! ## The widgets -/

theorem markupChars_launchCardHtml {c₁ c₂ : LaunchCard} (h : c₁.shape = c₂.shape) :
    markupChars (launchCardHtml page₁ c₁) = markupChars (launchCardHtml page₂ c₂) := by
  simp only [LaunchCard.shape, Prod.mk.injEq] at h
  obtain ⟨himage, hmission, hstatus⟩ := h
  unfold launchCardHtml
  -- each optional line is on both cards or on neither
  rcases isSome_eq_isSome_cases himage with ⟨hi₁, hi₂⟩ | ⟨_, _, hi₁, hi₂⟩ <;>
  rcases isSome_eq_isSome_cases hmission with ⟨hm₁, hm₂⟩ | ⟨_, _, hm₁, hm₂⟩ <;>
  rcases isSome_eq_isSome_cases hstatus with ⟨hs₁, hs₂⟩ | ⟨_, _, hs₁, hs₂⟩ <;>
  simp only [hi₁, hi₂, hm₁, hm₂, hs₁, hs₂, markupChars_append, markupChars_t,
    markupChars_escape]

theorem markupChars_each_launchCardHtml {cs₁ cs₂ : List LaunchCard}
    (h : cs₁.map LaunchCard.shape = cs₂.map LaunchCard.shape) :
    markupChars (each cs₁ (launchCardHtml page₁)) =
      markupChars (each cs₂ (launchCardHtml page₂)) := by
  -- the shapes agree card by card, so the lists run out together
  induction cs₁ generalizing cs₂ with
  | nil =>
    cases cs₂ with
    | nil => simp only [markupChars_each, List.map_nil]
    | cons c cs => cases h
  | cons c cs ih =>
    cases cs₂ with
    | nil => cases h
    | cons c' cs' =>
      simp only [List.map_cons, List.cons.injEq] at h
      have htail := ih h.2
      simp only [markupChars_each, List.map_cons, List.flatten_cons] at htail ⊢
      rw [markupChars_launchCardHtml page₁ page₂ h.1, htail]

theorem markupChars_launchesListHtml (hparams : page₁.params = page₂.params)
    {v₁ v₂ : LaunchesView} (h : v₁.shape = v₂.shape) :
    markupChars (launchesListHtml page₁ v₁) = markupChars (launchesListHtml page₂ v₂) := by
  simp only [LaunchesView.shape, Prod.mk.injEq] at h
  obtain ⟨hstate, hcards, hinitial, hmore, hexpanded⟩ := h
  unfold launchesListHtml
  simp only [markupChars_append, markupChars_t, markupChars_escape, markupChars_ite, hstate,
    hinitial, hmore, hexpanded, hparams, markupChars_each_launchCardHtml page₁ page₂ hcards]

theorem markupChars_pictureCardHtml {v₁ v₂ : PictureView} (h : v₁.shape = v₂.shape) :
    markupChars (pictureCardHtml page₁ v₁) = markupChars (pictureCardHtml page₂ v₂) := by
  simp only [PictureView.shape, Prod.mk.injEq] at h
  obtain ⟨hstate, himage, hmessage, hdate⟩ := h
  unfold pictureCardHtml
  rcases isSome_eq_isSome_cases himage with ⟨hi₁, hi₂⟩ | ⟨_, _, hi₁, hi₂⟩ <;>
  rcases isSome_eq_isSome_cases hmessage with ⟨hm₁, hm₂⟩ | ⟨_, _, hm₁, hm₂⟩ <;>
  rcases isSome_eq_isSome_cases hdate with ⟨hd₁, hd₂⟩ | ⟨_, _, hd₁, hd₂⟩ <;>
  simp only [hstate, hi₁, hi₂, hm₁, hm₂, hd₁, hd₂, markupChars_append, markupChars_t,
    markupChars_escape, markupChars_ite]

end Sections

/-! ## The page -/

/-- **No text can change the page's markup.** Two pages drawn with the same parameters,
from launches views of one shape and picture views of one shape, have the same markup
characters, whatever their site names, their texts and the fields of their records: each
such text reaches the page escaped, and what is not escaped is fixed or read from the
parameters and the shapes. -/
theorem page_markup_depends_only_on_shape {page₁ page₂ : PageContext}
    (hparams : page₁.params = page₂.params) {launches₁ launches₂ : LaunchesView}
    (hlaunches : launches₁.shape = launches₂.shape) {picture₁ picture₂ : PictureView}
    (hpicture : picture₁.shape = picture₂.shape) :
    markupChars (renderPage page₁ launches₁ picture₁) =
      markupChars (renderPage page₂ launches₂ picture₂) := by
  unfold renderPage launchesSection
  simp only [markupChars_append, markupChars_t, hparams, markupChars_header page₁ page₂ hparams,
    markupChars_hero page₁ page₂, markupChars_metricsBand page₁ page₂,
    markupChars_project page₁ page₂, markupChars_team page₁ page₂,
    markupChars_sponsor page₁ page₂, markupChars_pictureCardHtml page₁ page₂ hpicture,
    markupChars_launchesListHtml page₁ page₂ hparams hlaunches,
    markupChars_join_section page₁ page₂, markupChars_contact page₁ page₂,
    markupChars_footer page₁ page₂]

/-- A site name, record fields and a message full of markup leave the markup as it is
with plain texts in their place. -/
theorem hostile_texts_keep_markup :
    let params : PageParams := ⟨.english, 375, false⟩
    let page₁ : PageContext :=
      ⟨TextTable.builtin.localizer .english, params, "<b>\"Team\"</b>"⟩
    let page₂ : PageContext := ⟨TextTable.builtin.localizer .turkish, params, "Team"⟩
    let card₁ : LaunchCard :=
      { id := "\"><script>", name := "<h1>", provider := ">", location := "", time := "",
        mission := some "<i>", status := none, imageUrl := some "\" onerror=\"" }
    let card₂ : LaunchCard :=
      { id := "1", name := "Falcon", provider := "SpaceX", location := "Florida", time := "noon",
        mission := some "Crew", status := none, imageUrl := some "rocket.png" }
    let launches₁ : LaunchesView :=
      { state := "success", message := none, cards := [card₁], initial := 1, total := 1,
        canShowMore := false, expanded := false }
    let launches₂ : LaunchesView := { launches₁ with cards := [card₂] }
    let picture₁ : PictureView :=
      { state := "error", title := none, date := none, explanation := some "</div>",
        imageUrl := none, message := some "<!-- -->" }
    let picture₂ : PictureView :=
      { picture₁ with explanation := some "", message := some "down" }
    page₁.params = page₂.params ∧ launches₁.shape = launches₂.shape ∧
      picture₁.shape = picture₂.shape ∧
      markupChars (renderPage page₁ launches₁ picture₁) =
        markupChars (renderPage page₂ launches₂ picture₂) := by
  intro params page₁ page₂ card₁ card₂ launches₁ launches₂ picture₁ picture₂
  have hlaunches : launches₁.shape = launches₂.shape := by
    simp [launches₁, launches₂, card₁, card₂, LaunchesView.shape, LaunchCard.shape]
  have hpicture : picture₁.shape = picture₂.shape := by
    simp [picture₁, picture₂, PictureView.shape]
  have hparams : page₁.params = page₂.params := rfl
  exact ⟨hparams, hlaunches, hpicture,
    @page_markup_depends_only_on_shape page₁ page₂ hparams launches₁ launches₂ hlaunches
      picture₁ picture₂ hpicture⟩

end SpaceTeamSite.Site
