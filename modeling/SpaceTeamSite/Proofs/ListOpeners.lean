import SpaceTeamSite.Site.Setup
import SpaceTeamSite.Proofs.TagSearch

/-!
# Where the launches list sits in the page

The launches list is read by three openers: a launch card `<article class="launch-card"`,
a placeholder card and the show-more control. This module shows that the page holds
them only inside the list. Everything drawn before the list and after it is `Quiet`:
it holds none of the openers and ends in the beginning of none, because its fixed
markup has none (each literal is checked as a list of characters) and its texts are
escaped.

Inside the list, once the widget has loaded, the grid holds exactly the cards'
markup, each card opening with one card opener, and the list ends with the show-more
control when there is one. So the page's card openers are the cards', in order, and
it has one control or none.
-/

namespace SpaceTeamSite.Site

open Text

-- a fixed piece is checked on its characters, which the elaborator reads one by one
set_option maxRecDepth 10000

/-! ## The openers -/

/-- The opener of a launch card, `<article class="launch-card"`. -/
def cardOpener : List Char :=
  ['<', 'a', 'r', 't', 'i', 'c', 'l', 'e', ' ', 'c', 'l', 'a', 's', 's', '=', '"', 'l', 'a', 'u',
    'n', 'c', 'h', '-', 'c', 'a', 'r', 'd', '"']

/-- The opener of a placeholder card, `<div class="launch-card launch-card--skeleton"`. -/
def skeletonOpener : List Char :=
  ['<', 'd', 'i', 'v', ' ', 'c', 'l', 'a', 's', 's', '=', '"', 'l', 'a', 'u', 'n', 'c', 'h', '-',
    'c', 'a', 'r', 'd', ' ', 'l', 'a', 'u', 'n', 'c', 'h', '-', 'c', 'a', 'r', 'd', '-', '-', 's',
    'k', 'e', 'l', 'e', 't', 'o', 'n', '"']

/-- The opener of the show-more control, `<div class="launches-more"`. -/
def moreOpener : List Char :=
  ['<', 'd', 'i', 'v', ' ', 'c', 'l', 'a', 's', 's', '=', '"', 'l', 'a', 'u', 'n', 'c', 'h', 'e',
    's', '-', 'm', 'o', 'r', 'e', '"']

/-- The openers the launches list is read by. -/
def listOpeners : List (List Char) := [cardOpener, skeletonOpener, moreOpener]

theorem listOpeners_lt : ∀ w ∈ listOpeners, ∃ o, w = '<' :: o := by
  simp only [listOpeners, List.mem_cons, List.mem_nil_iff, or_false]
  rintro w (rfl | rfl | rfl) <;> exact ⟨_, rfl⟩

/-! ## Quiet pieces -/

/-- Quiet for the list's openers. -/
abbrev ListQuiet (s : String) : Prop := Quiet listOpeners s

theorem quiet_escape_append (s r : String) : ListQuiet (escape s ++ r) ↔ ListQuiet r :=
  quiet_append_iff (quiet_escape listOpeners_lt s) r

theorem quiet_code_append (l : Language) (r : String) :
    ListQuiet (l.code ++ r) ↔ ListQuiet r := by
  refine quiet_append_iff ?_ r
  cases l <;> exact Quiet.of_chars rfl (by decide)

/-- The upper-case code, as the language switch shows it. -/
theorem quiet_code_toUpper_append (l : Language) (r : String) :
    ListQuiet (l.code.toUpper ++ r) ↔ ListQuiet r := by
  refine quiet_append_iff (fun w hw => ?_) r
  cases l <;>
  · rw [Language.code, String.toUpper, String.toList_map, toList_of_eq_ofList rfl]
    revert w hw
    decide

/-- An alternative in front of the rest is quiet when both ways are. -/
theorem quiet_ite_append {c : Prop} [Decidable c] (a b r : String) :
    ListQuiet ((if c then a else b) ++ r) ↔
      if c then ListQuiet (a ++ r) else ListQuiet (b ++ r) := by
  split <;> rfl

theorem Quiet.each {α : Type} {xs : List α} {f : α → String}
    (h : ∀ x ∈ xs, ListQuiet (f x)) : ListQuiet (each xs f) :=
  Quiet.join fun s hs => by
    obtain ⟨x, hx, rfl⟩ := List.mem_map.mp hs
    exact h x hx

theorem Holds.each {α : Type} {xs : List α} {f : α → String} {n : List Char → Nat}
    (h : ∀ x ∈ xs, Holds listOpeners n (f x)) :
    Holds listOpeners (fun w => xs.length * n w) (each xs f) := by
  have hjoin : Holds listOpeners (fun w => (xs.map f).length * n w) (String.join (xs.map f)) :=
    Holds.join fun s hs => by
      obtain ⟨x, hx, rfl⟩ := List.mem_map.mp hs
      exact h x hx
  rwa [List.length_map] at hjoin

/-! ## The sections -/

section Sections

variable (page : PageContext)

theorem quiet_header : ListQuiet (header page) := by
  unfold header
  -- peel the pieces off from the left: a literal in front is checked on its characters by
  -- the discharger, escaped texts drop out, and the fixed navigation and language lists
  -- unfold into more literals
  simp (disch := (refine Quiet.of_chars rfl ?_; decide)) only [String.append_assoc,
    PageContext.t, PageParams.href, each, navLinks, Language.all, List.map_cons, List.map_nil,
    String.join_cons, String.join_nil, String.intercalate_cons_cons, String.intercalate_singleton,
    quiet_escape_append, quiet_code_toUpper_append, quiet_ite_append, quiet_append_iff, ite_self]
  exact Quiet.of_chars rfl (by decide)

theorem quiet_hero : ListQuiet (hero page) := by
  unfold hero heroImagePath logoPath
  simp (disch := (refine Quiet.of_chars rfl ?_; decide)) only [String.append_assoc,
    PageContext.t, quiet_escape_append, quiet_append_iff]
  exact Quiet.of_chars rfl (by decide)

theorem quiet_metricsBand : ListQuiet (metricsBand page) := by
  unfold metricsBand
  simp (disch := (refine Quiet.of_chars rfl ?_; decide)) only [String.append_assoc,
    PageContext.t, each, metrics, List.map_cons, List.map_nil, String.join_cons, String.join_nil,
    quiet_escape_append, quiet_append_iff]
  exact Quiet.of_chars rfl (by decide)

theorem quiet_textList (keys : List TextKey) : ListQuiet (textList page keys) := by
  unfold textList
  refine ((Quiet.of_chars rfl (by decide)).append (Quiet.each fun k _ => ?_)).append
    (Quiet.of_chars rfl (by decide))
  simp (disch := (refine Quiet.of_chars rfl ?_; decide)) only [String.append_assoc,
    PageContext.t, quiet_escape_append, quiet_append_iff]
  exact Quiet.of_chars rfl (by decide)

theorem quiet_textList_append (keys : List TextKey) (r : String) :
    ListQuiet (textList page keys ++ r) ↔ ListQuiet r :=
  quiet_append_iff (quiet_textList page keys) r

theorem quiet_project : ListQuiet (project page) := by
  unfold project drScore galleryWide modelTitle
  simp (disch := (refine Quiet.of_chars rfl ?_; decide)) only [String.append_assoc,
    PageContext.t, each, gallery, timeline, List.map_cons, List.map_nil, String.join_cons,
    String.join_nil, quiet_textList_append, quiet_escape_append, quiet_append_iff]
  exact Quiet.of_chars rfl (by decide)

theorem quiet_team : ListQuiet (team page) := by
  unfold team icon
  simp (disch := (refine Quiet.of_chars rfl ?_; decide)) only [String.append_assoc,
    PageContext.t, each, departments, List.map_cons, List.map_nil, String.join_cons,
    String.join_nil, quiet_escape_append, quiet_append_iff]
  exact Quiet.of_chars rfl (by decide)

theorem quiet_contactLinksHtml : ListQuiet (contactLinksHtml page) := by
  unfold contactLinksHtml
  simp (disch := (refine Quiet.of_chars rfl ?_; decide)) only [String.append_assoc,
    PageContext.t, each, contactLinks, List.map_cons, List.map_nil, String.join_cons,
    String.join_nil, if_true, if_false, Bool.false_eq_true, quiet_escape_append, quiet_append_iff]
  exact Quiet.of_chars rfl (by decide)

theorem quiet_contactLinksHtml_append (r : String) :
    ListQuiet (contactLinksHtml page ++ r) ↔ ListQuiet r :=
  quiet_append_iff (quiet_contactLinksHtml page) r

theorem quiet_sponsor : ListQuiet (sponsor page) := by
  unfold sponsor brochurePath
  simp (disch := (refine Quiet.of_chars rfl ?_; decide)) only [String.append_assoc,
    PageContext.t, each, sponsorTiers, List.map_cons, List.map_nil, String.join_cons,
    String.join_nil, Option.isSome_some, Option.isSome_none, if_true, if_false,
    Bool.false_eq_true, quiet_textList_append, quiet_contactLinksHtml_append, quiet_escape_append,
    quiet_append_iff]
  exact Quiet.of_chars rfl (by decide)

theorem quiet_join : ListQuiet (join page) := by
  unfold join icon
  simp (disch := (refine Quiet.of_chars rfl ?_; decide)) only [String.append_assoc,
    PageContext.t, each, departments, joinItems, List.map_cons, List.map_nil, String.join_cons,
    String.join_nil, quiet_escape_append, quiet_append_iff]
  exact Quiet.of_chars rfl (by decide)

theorem quiet_contact : ListQuiet (contact page) := by
  unfold contact contactEmail
  simp (disch := (refine Quiet.of_chars rfl ?_; decide)) only [String.append_assoc,
    PageContext.t, quiet_contactLinksHtml_append, quiet_escape_append, quiet_append_iff]
  exact Quiet.of_chars rfl (by decide)

theorem quiet_footer : ListQuiet (footer page) := by
  unfold footer
  simp (disch := (refine Quiet.of_chars rfl ?_; decide)) only [String.append_assoc,
    PageContext.t, quiet_escape_append, quiet_append_iff]
  exact Quiet.of_chars rfl (by decide)

/-- The picture card, for a card whose state is quiet. -/
theorem quiet_pictureCardHtml (view : PictureView) (hstate : ListQuiet view.state) :
    ListQuiet (pictureCardHtml page view) := by
  unfold pictureCardHtml
  -- one goal per way the media and the date are drawn
  repeat' split
  all_goals
    simp (disch := (refine Quiet.of_chars rfl ?_; decide)) only [String.append_assoc,
      PageContext.t, quiet_append_iff hstate, quiet_escape_append, quiet_append_iff]
    exact Quiet.of_chars rfl (by decide)

end Sections

/-! ## The page around the list -/

/-- The page before the launches list: the document head, the header, the sections
above the launches and the launches section's head with the picture card. -/
def pageBeforeList (page : PageContext) (picture : PictureView) : String :=
  "<!DOCTYPE html><html lang=\"" ++ page.params.lang.code ++
  "\"><head><meta charset=\"utf-8\"><meta name=\"viewport\" content=\"width=device-width, initial-scale=1\"><title>" ++
  page.t .pageTitle ++ "</title><meta name=\"description\" content=\"" ++ page.t .pageDescription ++
  "\"></head><body>" ++
  header page ++ "<main>" ++ hero page ++ metricsBand page ++ project page ++ team page ++
  sponsor page ++
  "<section id=\"launches\" class=\"launches\"><div class=\"launches__head\"><div><p class=\"kicker\">" ++
  page.t .launchesKicker ++ "</p><h2>" ++ page.t .launchesTitle ++ "</h2><p class=\"lead\">" ++
  page.t .launchesLead ++ "</p></div><span class=\"live-tag\">" ++ page.t .launchesLiveTag ++
  "</span></div><div class=\"launches__body\"><div class=\"launches__apod\">" ++
  pictureCardHtml page picture ++ "</div><div class=\"launches__list\">"

/-- The page after the launches list. -/
def pageAfterList (page : PageContext) : String :=
  "</div></div></section>" ++ join page ++ contact page ++ "</main>" ++ footer page ++
  "</body></html>"

/-- The launches view is drawn in one place only. -/
theorem renderPage_eq (page : PageContext) (launches : LaunchesView) (picture : PictureView) :
    renderPage page launches picture =
      pageBeforeList page picture ++ launchesListHtml page launches ++ pageAfterList page := by
  unfold renderPage launchesSection pageBeforeList pageAfterList
  simp only [String.append_assoc]

theorem quiet_pageBeforeList (page : PageContext) (picture : PictureView)
    (hstate : ListQuiet picture.state) : ListQuiet (pageBeforeList page picture) := by
  unfold pageBeforeList
  simp (disch := (refine Quiet.of_chars rfl ?_; decide)) only [String.append_assoc,
    PageContext.t, quiet_append_iff (quiet_header page), quiet_append_iff (quiet_hero page),
    quiet_append_iff (quiet_metricsBand page), quiet_append_iff (quiet_project page),
    quiet_append_iff (quiet_team page), quiet_append_iff (quiet_sponsor page),
    quiet_append_iff (quiet_pictureCardHtml page picture hstate), quiet_code_append,
    quiet_escape_append, quiet_append_iff]
  exact Quiet.of_chars rfl (by decide)

theorem quiet_pageAfterList (page : PageContext) : ListQuiet (pageAfterList page) := by
  unfold pageAfterList
  simp (disch := (refine Quiet.of_chars rfl ?_; decide)) only [String.append_assoc,
    quiet_append_iff (quiet_join page), quiet_append_iff (quiet_contact page),
    quiet_append_iff (quiet_footer page), quiet_append_iff]
  exact Quiet.of_chars rfl (by decide)

/-! ## Inside the list -/

/-- The head of the launches list: its state, title and status line, up to the grid. -/
def listHead (page : PageContext) (view : LaunchesView) : String :=
  "<div class=\"launches-list\" data-state=\"" ++ view.state ++
  "\"><div class=\"launches-list__head\"><h3>" ++ page.t .launchesListTitle ++
  "</h3><p class=\"launches-status\">" ++ escape (view.message.getD "") ++
  "</p></div><div class=\"launch-grid\">"

/-- The show-more control: a link to the page with the parameters `target`, labelled with
the text of `label`. -/
def moreControl (page : PageContext) (label : TextKey) (target : PageParams) : String :=
  "<div class=\"launches-more\"><a class=\"button\" href=\"" ++ target.href "launches" ++ "\">" ++
  page.t label ++ "</a></div>"

/-- The control a view shows: none without one, otherwise "show less" on an expanded list
and "show more" on a short one, linking to the page with the expansion flipped. -/
def viewControl (page : PageContext) (view : LaunchesView) : String :=
  if view.canShowMore then
    moreControl page (if view.expanded then .launchesShowLess else .launchesShowMore)
      (page.params.withExpanded !view.expanded)
  else ""

/-- Once loaded, the list is its head, the cards' markup and the control. -/
theorem launchesListHtml_of_loaded (page : PageContext) (view : LaunchesView)
    (h : view.state ≠ "loading") :
    launchesListHtml page view =
      listHead page view ++ each view.cards (launchCardHtml page) ++ "</div>" ++
        viewControl page view ++ "</div>" := by
  have hne : (view.state == "loading") = false := by simpa using h
  unfold launchesListHtml listHead viewControl moreControl
  rw [hne]
  cases view.canShowMore <;> cases view.expanded <;> simp [String.append_assoc]

/-- The head of the list is quiet when its state is. -/
theorem quiet_listHead (page : PageContext) (view : LaunchesView) (hstate : ListQuiet view.state) :
    ListQuiet (listHead page view) := by
  unfold listHead
  simp (disch := (refine Quiet.of_chars rfl ?_; decide)) only [String.append_assoc,
    PageContext.t, quiet_append_iff hstate, quiet_escape_append, quiet_append_iff]
  exact Quiet.of_chars rfl (by decide)

/-- The counts of text that holds the opener `w` once and no other opener. -/
def onlyOpener (w : List Char) (v : List Char) : Nat := if v = w then 1 else 0

/-- A card holds one card opener, at its start, and no other opener. -/
theorem holds_launchCardHtml (page : PageContext) (card : LaunchCard) :
    Holds listOpeners (onlyOpener cardOpener) (launchCardHtml page card) := by
  unfold launchCardHtml
  simp only [String.append_assoc]
  -- the first literal holds the card opener once; all after it is quiet
  refine Holds.append_quiet (Holds.of_chars rfl (by decide)) ?_
  repeat' split
  all_goals
    simp (disch := (refine Quiet.of_chars rfl ?_; decide)) only [String.append_assoc,
      PageContext.t, quiet_escape_append, quiet_append_iff]
    exact Quiet.of_chars rfl (by decide)

/-- The control holds one control opener, at its start, and no other opener. -/
theorem holds_moreControl (page : PageContext) (label : TextKey) (target : PageParams) :
    Holds listOpeners (onlyOpener moreOpener) (moreControl page label target) := by
  unfold moreControl
  simp only [String.append_assoc]
  refine Holds.append_quiet (Holds.of_chars rfl (by decide)) ?_
  simp (disch := (refine Quiet.of_chars rfl ?_; decide)) only [String.append_assoc,
    PageContext.t, PageParams.href, quiet_escape_append, quiet_append_iff]
  exact Quiet.of_chars rfl (by decide)

/-- The control of a view holds one control opener when the view has the control. -/
theorem holds_viewControl (page : PageContext) (view : LaunchesView) :
    Holds listOpeners (fun w => if view.canShowMore then onlyOpener moreOpener w else 0)
      (viewControl page view) := by
  unfold viewControl
  split
  · exact holds_moreControl page _ _
  · exact quiet_empty.holds

/-- A loaded list holds one card opener per card, no placeholder, and one control opener
when the view has the control. -/
theorem holds_launchesListHtml (page : PageContext) (view : LaunchesView)
    (hloaded : view.state ≠ "loading") (hstate : ListQuiet view.state) :
    Holds listOpeners
      (fun w => view.cards.length * onlyOpener cardOpener w +
        if view.canShowMore then onlyOpener moreOpener w else 0)
      (launchesListHtml page view) := by
  have hdiv : ListQuiet "</div>" := Quiet.of_chars rfl (by decide)
  have hcards : Holds listOpeners (fun w => view.cards.length * onlyOpener cardOpener w)
      (each view.cards (launchCardHtml page)) :=
    Holds.each fun card _ => holds_launchCardHtml page card
  rw [launchesListHtml_of_loaded page view hloaded]
  exact (((hcards.quiet_append (quiet_listHead page view hstate)).append_quiet hdiv).append
    (holds_viewControl page view)).append_quiet hdiv

/-- The page holds what its launches list holds. -/
theorem holds_renderPage {n : List Char → Nat} (page : PageContext) (launches : LaunchesView)
    (picture : PictureView) (hpicture : ListQuiet picture.state)
    (hlist : Holds listOpeners n (launchesListHtml page launches)) :
    Holds listOpeners n (renderPage page launches picture) := by
  rw [renderPage_eq]
  exact (hlist.quiet_append (quiet_pageBeforeList page picture hpicture)).append_quiet
    (quiet_pageAfterList page)

/-- A loaded page: the cards' markup stands between a head and a tail, and after it come
the grid's end and the control. -/
theorem renderPage_of_loaded (page : PageContext) (launches : LaunchesView) (picture : PictureView)
    (hloaded : launches.state ≠ "loading") :
    renderPage page launches picture =
      (pageBeforeList page picture ++ listHead page launches) ++
        each launches.cards (launchCardHtml page) ++ "</div>" ++ viewControl page launches ++
        ("</div>" ++ pageAfterList page) := by
  rw [renderPage_eq, launchesListHtml_of_loaded page launches hloaded]
  simp only [String.append_assoc]

/-- The openers of a loaded page: one card opener per card, no placeholder, and the
control exactly when the view has it. -/
theorem occurrences_renderPage_of_loaded (page : PageContext) (launches : LaunchesView)
    (picture : PictureView) (hloaded : launches.state ≠ "loading")
    (hstate : ListQuiet launches.state) (hpicture : ListQuiet picture.state) :
    occurrences cardOpener (renderPage page launches picture).toList = launches.cards.length ∧
      occurrences skeletonOpener (renderPage page launches picture).toList = 0 ∧
      occurrences moreOpener (renderPage page launches picture).toList =
        if launches.canShowMore then 1 else 0 := by
  have hpage := holds_renderPage page launches picture hpicture
    (holds_launchesListHtml page launches hloaded hstate)
  have hcard := (hpage cardOpener (by simp [listOpeners])).1
  have hskeleton := (hpage skeletonOpener (by simp [listOpeners])).1
  have hmore := (hpage moreOpener (by simp [listOpeners])).1
  -- the openers differ, so each count keeps only its own terms
  refine ⟨?_, ?_, ?_⟩
  · rw [hcard]; simp [onlyOpener, show cardOpener ≠ moreOpener by decide]
  · rw [hskeleton]; simp [onlyOpener, show skeletonOpener ≠ moreOpener by decide,
      show skeletonOpener ≠ cardOpener by decide]
  · rw [hmore]; simp [onlyOpener, show moreOpener ≠ cardOpener by decide]

end SpaceTeamSite.Site
