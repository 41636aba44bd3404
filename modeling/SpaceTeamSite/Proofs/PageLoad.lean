import SpaceTeamSite.Proofs.ListOpeners
import SpaceTeamSite.Proofs.LaunchesWidget
import SpaceTeamSite.Http.Router
import SpaceTeamSite.Cli.Reports

/-!
# One page load, three surfaces

A page load makes a fresh launches widget for the page's width, loads it with the
feed's answer and applies the reader's expansion. The page, the launches interface and
the command line all read that one widget through `LaunchesView.resolve`, so they show
the same cards: the first `shownCount p n` of the `n` fetched records, in feed order.
That count is the initial count for the width, or up to the cap of nine when the reader
expanded a list that has more records than the initial count; the expansion is applied
after the fetch, so it is never lost on a list that has the control.

On the page this means: the cards' markup stands between a head and a tail that hold
no card, no placeholder and no control; the control, after the cards, is there exactly
when the list has more records than the initial count, labelled "show less" on an
expanded list, and links to the same page with the expansion flipped.
-/

namespace SpaceTeamSite.Site

open Widget Text

/-- The records a feed's answer brings: the page's results, none on an error. -/
def fetchedRecords : Except FeedError LaunchPage → List Launch
  | .ok page => page.results
  | .error _ => []

/-- How many of `n` records a page load shows: up to the cap when the reader expanded a
list that has the control, up to the initial count for the width otherwise. -/
def shownCount (p : PageParams) (n : Nat) : Nat :=
  if p.expanded ∧ initialCount p.width < n then min n maxVisible
  else min n (initialCount p.width)

/-- The text a list without cards shows: "empty" for a page without launches, "error" when
the feed gave nothing. -/
def noCardsKey : Except FeedError LaunchPage → TextKey
  | .ok _ => .launchesEmpty
  | .error _ => .launchesError

theorem shownCount_le (p : PageParams) (n : Nat) : shownCount p n ≤ n := by
  unfold shownCount
  split <;> exact Nat.min_le_left _ _

/-- A loaded widget never reads as loading. -/
theorem tag_ofFetch_ne_loading (fetch : Except FeedError LaunchPage) :
    (LaunchesState.ofFetch fetch).tag ≠ "loading" := by
  cases fetch with
  | error e => simp [LaunchesState.ofFetch, LaunchesState.tag]
  | ok page =>
    by_cases hempty : page.results.isEmpty = true <;>
      simp [LaunchesState.ofFetch, LaunchesState.tag, hempty]

/-- The names of the launches states hold no opener. -/
theorem quiet_launchesTag (st : LaunchesState) : ListQuiet (LaunchesState.tag st) := by
  cases st <;> exact Quiet.of_chars rfl (by decide)

/-- The names of the picture states hold no opener. -/
theorem quiet_pictureTag (st : PictureState) : ListQuiet (PictureState.tag st) := by
  cases st <;> exact Quiet.of_chars rfl (by decide)

/-! ## The widget of a page load -/

namespace LaunchesWidget

/-- Asking a collapsed widget for an expansion expands it exactly when the control is
there. -/
theorem setExpanded_isExpanded_of_collapsed {w : LaunchesWidget} (h : w.isExpanded = false)
    (b : Bool) : (w.setExpanded b).isExpanded = (b && w.canShowMore) := by
  have hcollapsed : w.layout.expanded = false := h
  unfold LaunchesWidget.setExpanded LaunchesWidget.toggleShowMore
  cases b with
  | false => simp [h]
  | true =>
    -- expanding goes through the toggle, which does nothing without the control
    cases hc : w.canShowMore with
    | false => simp [h]
    | true => simp [LaunchesWidget.isExpanded, CardLayout.toggle, hcollapsed]

/-- A loaded widget holds the records of the feed's answer. -/
theorem launches_of_state_ofFetch {w : LaunchesWidget} {fetch : Except FeedError LaunchPage}
    (h : w.state = .ofFetch fetch) : w.launches = fetchedRecords fetch := by
  unfold LaunchesWidget.launches
  rw [h]
  cases fetch with
  | error e => rfl
  | ok page =>
    by_cases hempty : page.results.isEmpty = true
    · simp only [LaunchesState.ofFetch, hempty, if_true, fetchedRecords]
      exact (List.isEmpty_iff.mp hempty).symm
    · simp only [LaunchesState.ofFetch, hempty, Bool.false_eq_true, if_false, fetchedRecords]

end LaunchesWidget

namespace Setup

variable (s : Setup) (p : PageParams)

/-- The widget of a page load before the reader's expansion: loaded, collapsed, laid out
for the page's width. -/
theorem load_launchesWidget :
    (s.launchesWidget p.width).load s.feeds.launches =
      { state := .ofFetch s.feeds.launches, layout := CardLayout.forWidth p.width,
        viewport := .fixed p.width } := rfl

/-- A page load's widget holds the feed's records. -/
theorem loadLaunches_launches :
    (s.loadLaunches p).launches = fetchedRecords s.feeds.launches := by
  refine LaunchesWidget.launches_of_state_ofFetch ?_
  simp [loadLaunches, load_launchesWidget]

/-- A page load's widget has the initial count for the page's width. -/
theorem loadLaunches_initialCount :
    (s.loadLaunches p).initialCount = initialCount p.width := by
  simp [loadLaunches, load_launchesWidget, LaunchesWidget.initialCount, CardLayout.forWidth]

/-- A page load's widget has the control exactly when there are more records than the
initial count. -/
theorem loadLaunches_canShowMore :
    (s.loadLaunches p).canShowMore =
      decide (initialCount p.width < (fetchedRecords s.feeds.launches).length) := by
  have hinit := s.loadLaunches_initialCount p
  unfold LaunchesWidget.initialCount at hinit
  simp only [LaunchesWidget.canShowMore, CardLayout.canShowMore, loadLaunches_launches, hinit,
    gt_iff_lt]

/-- The reader's expansion is applied after the fetch: it holds exactly when the list
has the control. -/
theorem loadLaunches_isExpanded :
    (s.loadLaunches p).isExpanded =
      (p.expanded &&
        decide (initialCount p.width < (fetchedRecords s.feeds.launches).length)) := by
  rw [← loadLaunches_canShowMore, loadLaunches, LaunchesWidget.setExpanded_canShowMore]
  exact LaunchesWidget.setExpanded_isExpanded_of_collapsed rfl p.expanded

/-- A page load shows the first `shownCount` records. -/
theorem loadLaunches_visible :
    (s.loadLaunches p).visible =
      (fetchedRecords s.feeds.launches).take
        (shownCount p (fetchedRecords s.feeds.launches).length) := by
  have hexp : (s.loadLaunches p).layout.expanded = _ := s.loadLaunches_isExpanded p
  have hinit : (s.loadLaunches p).layout.initial = _ := s.loadLaunches_initialCount p
  unfold LaunchesWidget.visible
  rw [loadLaunches_launches]
  congr 1
  simp only [CardLayout.visibleLen, shownCount, hexp, hinit]
  -- the layout's length and `shownCount` read the same two conditions
  cases p.expanded <;>
    by_cases hmore : initialCount p.width < (fetchedRecords s.feeds.launches).length <;>
    simp [hmore]

theorem loadLaunches_state : (s.loadLaunches p).state = .ofFetch s.feeds.launches := by
  simp [loadLaunches, load_launchesWidget]

/-! ## The view of a page load -/

section View

variable (text : Localizer) (offset : Calendar.Offset)

/-- The cards of a page load: the first `shownCount` records, in feed order. -/
theorem resolve_loadLaunches_cards :
    (LaunchesView.resolve (s.loadLaunches p) text offset).cards =
      ((fetchedRecords s.feeds.launches).take
        (shownCount p (fetchedRecords s.feeds.launches).length)).map
          fun l => LaunchCard.resolve l text offset := by
  simp [LaunchesView.resolve, loadLaunches_visible]

theorem resolve_loadLaunches_state :
    (LaunchesView.resolve (s.loadLaunches p) text offset).state =
      (LaunchesState.ofFetch s.feeds.launches).tag := by
  simp [LaunchesView.resolve, loadLaunches_state]

/-- The message of a page load: there is one exactly when there are no records. -/
theorem resolve_loadLaunches_message :
    (LaunchesView.resolve (s.loadLaunches p) text offset).message =
      if (fetchedRecords s.feeds.launches).isEmpty then
        some (text.text (noCardsKey s.feeds.launches))
      else none := by
  simp only [LaunchesView.resolve, loadLaunches_state]
  cases s.feeds.launches with
  | error e => rfl
  | ok page =>
    by_cases hempty : page.results.isEmpty = true
    · simp [LaunchesState.ofFetch, hempty, fetchedRecords, noCardsKey]
    · simp [LaunchesState.ofFetch, hempty, fetchedRecords]

end View

/-! ## Three surfaces -/

/-- The control of a page load's list: there when there are more records than the initial
count, labelled "show less" on an expanded list, linking to the page with only the
expansion flipped. -/
theorem viewControl_loadLaunches :
    viewControl (s.context p)
        (LaunchesView.resolve (s.loadLaunches p) (s.localizer p.lang) s.offset) =
      if initialCount p.width < (fetchedRecords s.feeds.launches).length then
        moreControl (s.context p) (if p.expanded then .launchesShowLess else .launchesShowMore)
          (p.withExpanded !p.expanded)
      else "" := by
  unfold viewControl
  simp only [LaunchesView.resolve, loadLaunches_canShowMore, loadLaunches_isExpanded, context]
  by_cases hmore : initialCount p.width < (fetchedRecords s.feeds.launches).length <;> simp [hmore]

/-- The page of a load: its cards' markup in order, between the page's head and the
control. -/
theorem render_loadLaunches :
    s.render p =
      (pageBeforeList (s.context p) (PictureView.resolve s.loadPicture (s.localizer p.lang)) ++
          listHead (s.context p)
            (LaunchesView.resolve (s.loadLaunches p) (s.localizer p.lang) s.offset)) ++
        each (LaunchesView.resolve (s.loadLaunches p) (s.localizer p.lang) s.offset).cards
          (launchCardHtml (s.context p)) ++ "</div>" ++
        (if initialCount p.width < (fetchedRecords s.feeds.launches).length then
          moreControl (s.context p) (if p.expanded then .launchesShowLess else .launchesShowMore)
            (p.withExpanded !p.expanded)
        else "") ++
        ("</div>" ++ pageAfterList (s.context p)) := by
  rw [← viewControl_loadLaunches]
  refine renderPage_of_loaded _ _ _ ?_
  rw [resolve_loadLaunches_state]
  exact tag_ofFetch_ne_loading _

/-- The launches interface answers with the view of a page load for the query's
parameters. -/
theorem respond_launches (u : Nat) (query : String) (q : Http.PageQuery)
    (hq : Http.PageQuery.parse query = .ok q) :
    Http.respond s u "GET" ⟨"/api/launches", some query⟩ =
      ⟨200, some Http.jsonType, (launchesResponse (s.params q.lang q.width q.more)
        (LaunchesView.resolve (s.loadLaunches (s.params q.lang q.width q.more))
          (s.localizer (s.params q.lang q.width q.more).lang) s.offset)).render⟩ := by
  simp [Http.respond, Http.answer, Http.routeOf?, hq]

/-- The command line's listing of a page load: the status line when there are no records,
the cards, and the hint when the control is there and the list is short. -/
theorem launchesReport_loadLaunches :
    let text := s.localizer p.lang
    let records := fetchedRecords s.feeds.launches
    let cards := (records.take (shownCount p records.length)).map
      fun l => LaunchCard.resolve l text s.offset
    Cli.launchesReport s p.lang p.width p.expanded =
      text.text .launchesListTitle ++ "\n" ++
        (if records.isEmpty then text.text (noCardsKey s.feeds.launches) ++ "\n" else "") ++
        String.join (cards.map (Cli.cardLines text)) ++
        (if initialCount p.width < records.length ∧ p.expanded = false then
          "\n" ++ toString (shownCount p records.length) ++ "/" ++ toString records.length ++
            " (--all: " ++ text.text .launchesShowMore ++ ")\n"
        else "") := by
  have hw : ((s.launchesWidget p.width).load s.feeds.launches).setExpanded p.expanded =
      s.loadLaunches p := rfl
  have hcards := resolve_loadLaunches_cards s p (s.localizer p.lang) s.offset
  have hmessage := resolve_loadLaunches_message s p (s.localizer p.lang) s.offset
  unfold Cli.launchesReport
  simp only [hw, hmessage]
  cases hempty : (fetchedRecords s.feeds.launches).isEmpty with
  | true =>
    have hnil : fetchedRecords s.feeds.launches = [] := List.isEmpty_iff.mp hempty
    simp [hnil, String.append_assoc]
  | false =>
    simp only [Bool.false_eq_true, if_false, hcards]
    -- the hint's guard reads the control and the expansion, both set by the count
    have hlength := Nat.min_eq_left (shownCount_le p (fetchedRecords s.feeds.launches).length)
    by_cases hmore : initialCount p.width < (fetchedRecords s.feeds.launches).length <;>
      simp [LaunchesView.resolve, loadLaunches_canShowMore, loadLaunches_isExpanded,
        loadLaunches_launches, String.append_assoc, hmore, hlength]

end Setup

/-! ## One page load -/

/-- **The page, the interface and the command line show the same cards.** For any feed
answer and any query that parses, the page of a load holds the cards of the first `k`
records in feed order, and no card, placeholder or control outside them but the control
after them; the launches interface answers with a view of those cards; the command line
prints them. `k` is up to the cap of nine when the reader expanded a list that has more
records than the initial count, and up to the initial count otherwise. The control is
there exactly when the list has more records than the initial count, labelled "show
less" on an expanded list and linking to the page with only the expansion flipped; the
command line's hint stands for it on a short list. -/
theorem launch_cards_agree_across_surfaces (s : Setup) (u : Nat) (query : String)
    (q : Http.PageQuery) (hq : Http.PageQuery.parse query = .ok q) :
    let p := s.params q.lang q.width q.more
    let records := fetchedRecords s.feeds.launches
    let n := records.length
    let i := initialCount p.width
    let k := if p.expanded ∧ i < n then min n maxVisible else min n i
    let text := s.localizer p.lang
    let cards := (records.take k).map fun l => LaunchCard.resolve l text s.offset
    let page := s.context p
    let control := if i < n then
        moreControl page (if p.expanded then .launchesShowLess else .launchesShowMore)
          (p.withExpanded !p.expanded)
      else ""
    cards.length = k ∧
    (∃ head tail,
      s.render p = head ++ each cards (launchCardHtml page) ++ "</div>" ++ control ++ tail ∧
      ListQuiet head ∧ ListQuiet tail) ∧
    occurrences cardOpener (s.render p).toList = k ∧
    occurrences skeletonOpener (s.render p).toList = 0 ∧
    occurrences moreOpener (s.render p).toList = (if i < n then 1 else 0) ∧
    (∃ v : LaunchesView,
      Http.respond s u "GET" ⟨"/api/launches", some query⟩ =
        ⟨200, some Http.jsonType, (launchesResponse p v).render⟩ ∧
      v.cards = cards ∧ v.canShowMore = decide (i < n) ∧
      v.expanded = (p.expanded && decide (i < n))) ∧
    Cli.launchesReport s p.lang p.width p.expanded =
      text.text .launchesListTitle ++ "\n" ++
        (if records.isEmpty then text.text (noCardsKey s.feeds.launches) ++ "\n" else "") ++
        String.join (cards.map (Cli.cardLines text)) ++
        (if i < n ∧ p.expanded = false then
          "\n" ++ toString k ++ "/" ++ toString n ++ " (--all: " ++
            text.text .launchesShowMore ++ ")\n"
        else "") := by
  intro p records n i k text cards page control
  -- the view every surface reads
  let view := LaunchesView.resolve (s.loadLaunches p) text s.offset
  have hcards : view.cards = cards := s.resolve_loadLaunches_cards p text s.offset
  have hlength : cards.length = k := by
    simp only [cards, List.length_map, List.length_take]
    exact Nat.min_eq_left (shownCount_le p n)
  have hloaded : view.state ≠ "loading" := by
    rw [s.resolve_loadLaunches_state p text s.offset]
    exact tag_ofFetch_ne_loading _
  have hstate : ListQuiet view.state := by
    rw [s.resolve_loadLaunches_state p text s.offset]
    exact quiet_launchesTag _
  have hpicture : ListQuiet (PictureView.resolve s.loadPicture text).state :=
    quiet_pictureTag _
  have hcontrol : view.canShowMore = decide (i < n) := s.loadLaunches_canShowMore p
  obtain ⟨hcard, hskeleton, hmore⟩ :=
    occurrences_renderPage_of_loaded page view _ hloaded hstate hpicture
  refine ⟨hlength, ?page, ?card, hskeleton, ?more, ?api, ?cli⟩
  case page =>
    have hdiv : ListQuiet "</div>" := Quiet.of_chars rfl (by decide)
    refine ⟨_, _, ?_,
      (quiet_pageBeforeList page _ hpicture).append (quiet_listHead page view hstate),
      hdiv.append (quiet_pageAfterList page)⟩
    rw [s.render_loadLaunches p, hcards]
  case card => rw [← hlength, ← hcards]; exact hcard
  case more =>
    simp only [hcontrol, decide_eq_true_eq] at hmore
    exact hmore
  case api =>
    exact ⟨view, s.respond_launches u query q hq, hcards, hcontrol,
      s.loadLaunches_isExpanded p⟩
  case cli => exact s.launchesReport_loadLaunches p

/-- The empty query sets no parameter. -/
theorem parse_empty_query : Http.PageQuery.parse "" = .ok {} := by
  have hsplit : "".splitOn "&" = [""] := by
    rw [String.splitOn]
    unfold String.splitOnAux
    simp
    rfl
  simp [Http.PageQuery.parse, Http.queryPairs, hsplit]
  rfl

/-- On a phone, a page of five launches draws one card: the query without parameters
takes the site's width of 375 pixels, where the initial count is one. -/
theorem phone_page_draws_one_card :
    let s : Setup :=
      { name := "Space Team", text := .builtin, defaultLanguage := .english, defaultWidth := 375,
        offset := Calendar.Offset.utc,
        feeds := { launches := .ok { results := [{}, {}, {}, {}, {}] },
                   picture := .error (.requestFailed "apod") } }
    Http.PageQuery.parse "" = .ok {} ∧
      occurrences cardOpener (s.render (s.params none none none)).toList = 1 :=
  ⟨parse_empty_query, (launch_cards_agree_across_surfaces _ 0 "" {} parse_empty_query).2.2.1⟩

end SpaceTeamSite.Site
