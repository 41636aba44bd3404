import SpaceTeamSite.Proofs.TagReader
import SpaceTeamSite.Proofs.ListOpeners

/-!
# The outline of a page

Read as tags, every page is one `html` element holding a `head` and then a `body`, its
tags well nested, and its sections marked by the ids `hero` to `contact`, each once and
in page order. This holds for every context and every state of the two live widgets:
loading, loaded with any records, empty or failed.

Each piece of the page is a `Fragment`: read from character data back to character
data, it takes the open elements as the enclosing markup leaves them to what the next
piece expects. A piece with no variable markup is checked by reading its fixed text,
the escaped texts spliced into it dropping out (`readOn_escape`); the cards and the
placeholders, whose number varies, are balanced one by one and joined.
-/

namespace SpaceTeamSite.Site

open Text

-- a fixed piece is checked on its characters, which the elaborator reads one by one
set_option maxRecDepth 10000

/-! ## The sections

Each section is read piece by piece, in two passes. The first turns every literal into
its characters (`toList_of_eq_ofList`, discharged by `rfl`) and settles the conditions of
the markup; the second checks (by `decide`) that each escaped text stands in character
data or in a quoted value, where `readOn_escape` drops it. What is left is a fixed
reading, decided. -/

section Sections

variable (page : PageContext)

theorem fragment_header : Fragment [] [] [] (header page) := by
  obtain ⟨text, ⟨lang, width, expanded⟩, name⟩ := page
  -- the language switch marks the page's own language, so the two languages are read apart
  cases lang <;>
  · unfold Fragment header
    simp (disch := rfl) only [String.toList_append, readOn_append, toList_of_eq_ofList, readOn_nil,
      PageContext.t, PageParams.href, each, navLinks, Language.all, List.map_cons, List.map_nil,
      String.join_cons, String.join_nil, String.intercalate_cons_cons, String.intercalate_singleton,
      Language.code, Language.nativeName, String.toUpper, String.toList_map, beq_iff_eq,
      reduceCtorEq, if_true, if_false]
    simp (disch := decide) only [readOn_escape]
    decide

theorem fragment_hero : Fragment [] [] ["hero".toList] (hero page) := by
  unfold Fragment hero heroImagePath logoPath
  simp (disch := rfl) only [String.toList_append, readOn_append, toList_of_eq_ofList, PageContext.t]
  simp (disch := decide) only [readOn_escape]
  decide

theorem fragment_metricsBand : Fragment [] [] ["metrics".toList] (metricsBand page) := by
  unfold Fragment metricsBand
  simp (disch := rfl) only [String.toList_append, readOn_append, toList_of_eq_ofList, readOn_nil,
    PageContext.t, each, metrics, List.map_cons, List.map_nil, String.join_cons, String.join_nil]
  simp (disch := decide) only [readOn_escape]
  decide

theorem fragment_project :
    Fragment [] [] (["project", "achievements-title", "goals-title", "tab-gallery", "tab-3d",
      "panel-gallery", "panel-3d"].map String.toList) (project page) := by
  unfold Fragment project drScore galleryWide modelTitle textList achievements goals
  simp (disch := rfl) only [String.toList_append, readOn_append, toList_of_eq_ofList, readOn_nil,
    PageContext.t, each, gallery, timeline, List.map_cons, List.map_nil, String.join_cons,
    String.join_nil]
  simp (disch := decide) only [readOn_escape]
  decide

theorem fragment_team : Fragment [] [] ["team".toList] (team page) := by
  unfold Fragment team icon
  simp (disch := rfl) only [String.toList_append, readOn_append, toList_of_eq_ofList, readOn_nil,
    PageContext.t, each, departments, List.map_cons, List.map_nil, String.join_cons,
    String.join_nil]
  simp (disch := decide) only [readOn_escape]
  decide

theorem fragment_sponsor : Fragment [] [] ["sponsor".toList] (sponsor page) := by
  unfold Fragment sponsor brochurePath contactLinksHtml textList
  simp (disch := rfl) only [String.toList_append, readOn_append, toList_of_eq_ofList, readOn_nil,
    PageContext.t, each, sponsorTiers, contactLinks, List.map_cons, List.map_nil, String.join_cons,
    String.join_nil, Option.isSome_some, Option.isSome_none, Bool.false_eq_true, if_true, if_false]
  simp (disch := decide) only [readOn_escape]
  decide

theorem fragment_join : Fragment [] [] ["join".toList] (join page) := by
  unfold Fragment join icon
  simp (disch := rfl) only [String.toList_append, readOn_append, toList_of_eq_ofList, readOn_nil,
    PageContext.t, each, departments, joinItems, List.map_cons, List.map_nil, String.join_cons,
    String.join_nil]
  simp (disch := decide) only [readOn_escape]
  decide

theorem fragment_contact : Fragment [] [] ["contact".toList] (contact page) := by
  unfold Fragment contact contactEmail contactLinksHtml
  simp (disch := rfl) only [String.toList_append, readOn_append, toList_of_eq_ofList, readOn_nil,
    PageContext.t, each, contactLinks, List.map_cons, List.map_nil, String.join_cons,
    String.join_nil, Bool.false_eq_true, if_true, if_false]
  simp (disch := decide) only [readOn_escape]
  decide

theorem fragment_footer : Fragment [] [] [] (footer page) := by
  unfold Fragment footer
  simp (disch := rfl) only [String.toList_append, readOn_append, toList_of_eq_ofList, PageContext.t]
  simp (disch := decide) only [readOn_escape]
  decide

/-! ## The live widgets -/

theorem fragment_launchCardHtml (card : LaunchCard) :
    Fragment [] [] [] (launchCardHtml page card) := by
  unfold Fragment launchCardHtml
  -- one goal per way the image, the mission and the status are drawn
  repeat' split
  all_goals
    simp (disch := rfl) only [String.toList_append, readOn_append, toList_of_eq_ofList,
      PageContext.t]
    simp (disch := decide) only [readOn_escape]
    decide

theorem fragment_skeletonCard : Fragment [] [] [] skeletonCard := by
  unfold Fragment skeletonCard
  simp (disch := rfl) only [String.toList_append, readOn_append, toList_of_eq_ofList]
  decide

/-- The head of the launches list leaves the list and its grid open. -/
theorem fragment_listHead (view : LaunchesView) (hstate : Plain view.state) :
    Fragment [] ["div".toList, "div".toList] [] (listHead page view) := by
  unfold Fragment listHead
  simp (disch := rfl) only [String.toList_append, readOn_append, toList_of_eq_ofList, PageContext.t]
  simp (disch := decide) only [readOn_escape, readOn_plain_toList hstate]
  decide

theorem fragment_viewControl (view : LaunchesView) :
    Fragment [] [] [] (viewControl page view) := by
  unfold viewControl
  split
  · unfold Fragment moreControl
    simp (disch := rfl) only [String.toList_append, readOn_append, toList_of_eq_ofList,
      PageContext.t, PageParams.href]
    simp (disch := decide) only [readOn_escape]
    decide
  · exact fragment_empty

/-- The grid of the launches list: placeholders while the list loads, then the cards. -/
def launchGrid (view : LaunchesView) : String :=
  if view.state == "loading" then String.join (List.replicate view.initial skeletonCard)
  else each view.cards (launchCardHtml page)

/-- The launches list is its head, the grid and the control, each closed in turn. -/
theorem launchesListHtml_eq_grid (view : LaunchesView) :
    launchesListHtml page view =
      listHead page view ++ launchGrid page view ++ "</div>" ++ viewControl page view ++
        "</div>" := by
  unfold launchesListHtml listHead launchGrid viewControl moreControl
  cases view.canShowMore <;> cases view.expanded <;> simp [String.append_assoc]

theorem fragment_launchGrid (view : LaunchesView) : Fragment [] [] [] (launchGrid page view) := by
  unfold launchGrid
  split
  · exact Fragment.join fun x hx => List.eq_of_mem_replicate hx ▸ fragment_skeletonCard
  · refine Fragment.join fun x hx => ?_
    obtain ⟨card, -, rfl⟩ := List.mem_map.mp hx
    exact fragment_launchCardHtml page card

theorem fragment_launchesListHtml (view : LaunchesView) (hstate : Plain view.state) :
    Fragment [] [] [] (launchesListHtml page view) := by
  have hgridEnd : Fragment ["div".toList, "div".toList] ["div".toList] [] "</div>" :=
    Fragment.of_chars rfl (by decide)
  have hlistEnd : Fragment ["div".toList] [] [] "</div>" := Fragment.of_chars rfl (by decide)
  rw [launchesListHtml_eq_grid]
  exact Fragment.around _
    (Fragment.around _ (fragment_listHead page view hstate) (fragment_launchGrid page view)
      hgridEnd)
    (fragment_viewControl page view) hlistEnd

theorem fragment_pictureCardHtml (view : PictureView) (hstate : Plain view.state) :
    Fragment [] [] [] (pictureCardHtml page view) := by
  unfold Fragment pictureCardHtml
  -- one goal per way the media and the date are drawn
  repeat' split
  all_goals
    simp (disch := rfl) only [String.toList_append, readOn_append, toList_of_eq_ofList,
      PageContext.t]
    simp (disch := decide) only [readOn_escape, readOn_plain_toList hstate]
    decide

/-- The launches section holds the picture card and then the launches list. -/
theorem fragment_launchesSection (launches : LaunchesView) (picture : PictureView)
    (hlaunches : Plain launches.state) (hpicture : Plain picture.state) :
    Fragment [] [] ["launches".toList] (launchesSection page launches picture) := by
  -- the section, its body and the column of the card, or of the list, stand open
  have hswitch : Fragment ["div".toList, "div".toList, "section".toList]
      ["div".toList, "div".toList, "section".toList] [] "</div><div class=\"launches__list\">" :=
    Fragment.of_chars rfl (by decide)
  have hend : Fragment ["div".toList, "div".toList, "section".toList] [] []
      "</div></div></section>" := Fragment.of_chars rfl (by decide)
  unfold launchesSection
  refine Fragment.around _ (Fragment.around _ ?_ (fragment_pictureCardHtml page picture hpicture)
    hswitch) (fragment_launchesListHtml page launches hlaunches) hend
  unfold Fragment
  simp (disch := rfl) only [String.toList_append, readOn_append, toList_of_eq_ofList, PageContext.t]
  simp (disch := decide) only [readOn_escape]
  decide

end Sections

/-! ## The document -/

/-- The document up to its body: the doctype, the root's start tag and the head. -/
def documentHead (page : PageContext) : String :=
  "<!DOCTYPE html><html lang=\"" ++ page.params.lang.code ++
  "\"><head><meta charset=\"utf-8\"><meta name=\"viewport\" content=\"width=device-width, initial-scale=1\"><title>" ++
  page.t .pageTitle ++ "</title><meta name=\"description\" content=\"" ++ page.t .pageDescription ++
  "\"></head><body>"

/-- What the body holds: the header, the sections in `main`, and the footer. -/
def documentBody (page : PageContext) (launches : LaunchesView) (picture : PictureView) : String :=
  header page ++ "<main>" ++ hero page ++ metricsBand page ++ project page ++ team page ++
  sponsor page ++ launchesSection page launches picture ++ join page ++ contact page ++ "</main>" ++
  footer page

theorem renderPage_eq_documentBody (page : PageContext) (launches : LaunchesView)
    (picture : PictureView) :
    renderPage page launches picture =
      documentHead page ++ documentBody page launches picture ++ "</body></html>" := by
  unfold renderPage documentHead documentBody
  simp only [String.append_assoc]

theorem plain_code (lang : Language) : Plain lang.code := by
  cases lang <;> decide

/-- The head is read as the root's and the head's start tags, the title, and the body's
start tag; its `meta` elements are void. -/
theorem readOn_documentHead (page : PageContext) :
    (readOn (.text, []) (documentHead page).toList).1 = .text ∧
      tagsOf (tokens (documentHead page)) =
        [.start "html".toList, .start "head".toList, .start "title".toList, .stop "title".toList,
          .stop "head".toList, .start "body".toList] ∧
      idsOf (tokens (documentHead page)) = [] := by
  unfold tokens documentHead
  simp (disch := rfl) only [String.toList_append, readOn_append, toList_of_eq_ofList, PageContext.t]
  simp (disch := decide) only [readOn_escape, readOn_plain_toList (plain_code _)]
  decide

/-- The ids of the page, in page order. -/
def pageIds : List (List Char) :=
  ["hero", "metrics", "project", "achievements-title", "goals-title", "tab-gallery", "tab-3d",
    "panel-gallery", "panel-3d", "team", "sponsor", "launches", "join", "contact"].map String.toList

theorem fragment_documentBody (page : PageContext) (launches : LaunchesView)
    (picture : PictureView) (hlaunches : Plain launches.state) (hpicture : Plain picture.state) :
    Fragment [] [] pageIds (documentBody page launches picture) := by
  have hmain : Fragment [] ["main".toList] [] "<main>" := Fragment.of_chars rfl (by decide)
  have hmainEnd : Fragment ["main".toList] [] [] "</main>" := Fragment.of_chars rfl (by decide)
  unfold documentBody
  -- the sections stand in `main`, one after another
  exact ((((((((((fragment_header page).append hmain).append
    ((fragment_hero page).inside _)).append ((fragment_metricsBand page).inside _)).append
    ((fragment_project page).inside _)).append ((fragment_team page).inside _)).append
    ((fragment_sponsor page).inside _)).append
    ((fragment_launchesSection page launches picture hlaunches hpicture).inside _)).append
    ((fragment_join page).inside _)).append ((fragment_contact page).inside _)).append
    hmainEnd |>.append (fragment_footer page)

/-- A page whose widgets' states are plain: an `html` element holding a head with its title
and a body whose tags are well nested, and the ids `pageIds`. -/
theorem page_outline_of_plain (page : PageContext) (launches : LaunchesView)
    (picture : PictureView) (hlaunches : Plain launches.state) (hpicture : Plain picture.state) :
    (∃ inBody, WellNested inBody ∧
      tagsOf (tokens (renderPage page launches picture)) =
        element "html".toList
          (element "head".toList [.start "title".toList, .stop "title".toList] ++
            element "body".toList inBody)) ∧
    idsOf (tokens (renderPage page launches picture)) = pageIds := by
  obtain ⟨hheadText, hheadTags, hheadIds⟩ := readOn_documentHead page
  have hbody := fragment_documentBody page launches picture hlaunches hpicture
  have hbodyEnd : (readOn (.text, []) (documentHead page ++
      documentBody page launches picture).toList).1 = .text :=
    (readOn_append_fst hheadText _).trans hbody.ends_text
  have htail : tokens "</body></html>" =
      [.tag (.stop "body".toList), .tag (.stop "html".toList)] := by
    rw [tokens, toList_of_eq_ofList rfl]
    decide
  have hdoc : tokens (renderPage page launches picture) = tokens (documentHead page) ++
      tokens (documentBody page launches picture) ++ tokens "</body></html>" := by
    rw [renderPage_eq_documentBody, tokens_append hbodyEnd, tokens_append hheadText]
  refine ⟨⟨tagsOf (tokens (documentBody page launches picture)), hbody.closeAll_tags, ?_⟩,
    ?_⟩
  · rw [hdoc, tagsOf_append, tagsOf_append, hheadTags, htail]
    simp [element, tagsOf, Token.tag?]
  · rw [hdoc, idsOf_append, idsOf_append, hheadIds, htail, hbody.idsOf_tokens]
    rfl

/-- The ids that mark the page's sections, in page order. -/
def sectionAnchors : List (List Char) :=
  ["hero", "metrics", "project", "team", "sponsor", "launches", "join", "contact"].map String.toList

theorem plain_launchesTag (state : Widget.LaunchesState) : Plain state.tag := by
  cases state <;> simp only [Widget.LaunchesState.tag] <;> decide

theorem plain_pictureTag (state : Widget.PictureState) : Plain state.tag := by
  cases state <;> simp only [Widget.PictureState.tag] <;> decide

/-- Every page, whatever the states of its widgets, reads as one `html` element holding a
`head` and then a `body`, its tags well nested; each section's id stands in it once, in
page order. -/
theorem rendered_page_outline (page : PageContext) (w : Widget.LaunchesWidget)
    (s : Widget.PictureState) (text : Localizer) (offset : Calendar.Offset) :
    let doc := tokens (renderPage page (LaunchesView.resolve w text offset)
      (PictureView.resolve s text))
    WellNested (tagsOf doc) ∧
    (∃ inHead inBody, WellNested inHead ∧ WellNested inBody ∧
      tagsOf doc = element "html".toList (element "head".toList inHead ++
        element "body".toList inBody)) ∧
    (idsOf doc).filter (· ∈ sectionAnchors) = sectionAnchors ∧
    ∀ anchor ∈ sectionAnchors, (idsOf doc).count anchor = 1 := by
  obtain ⟨⟨inBody, hbody, htags⟩, hids⟩ := page_outline_of_plain page
    (LaunchesView.resolve w text offset) (PictureView.resolve s text)
    (plain_launchesTag w.state) (plain_pictureTag s)
  have hhead : WellNested [.start "title".toList, .stop "title".toList] := by decide
  refine ⟨?_, ⟨_, inBody, hhead, hbody, htags⟩, ?_, ?_⟩
  · rw [htags]
    exact ((hhead.element _).append (hbody.element _)).element _
  · rw [hids]
    decide
  · rw [hids]
    decide

end SpaceTeamSite.Site
