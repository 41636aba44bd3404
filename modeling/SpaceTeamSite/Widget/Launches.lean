import SpaceTeamSite.Widget.Layout
import SpaceTeamSite.Widget.Viewport
import SpaceTeamSite.Record.Launch
import SpaceTeamSite.Error

/-!
# The launches widget

The upcoming-launches widget owns one request and its outcome. It starts `loading`
and moves once to a final state: `success` with the launches of a page that has some,
`empty` for a page without any, `error` when the feed gave nothing. Loading again
changes nothing, so the feed is asked at most once per widget; a page load makes a
fresh widget.

On top of the records sits the card layout. The reader's "show more" only applies when
the control is present, that is when there are more records than the initial count.
-/

namespace SpaceTeamSite.Widget

/-- The fetch state of the launches widget. -/
inductive LaunchesState where
  | loading
  | success (launches : List Launch)
  | empty
  | error

namespace LaunchesState

/-- The state's name. -/
def tag : LaunchesState → String
  | .loading => "loading"
  | .success _ => "success"
  | .empty => "empty"
  | .error => "error"

/-- Whether the widget still waits for its request. -/
def isLoading : LaunchesState → Bool
  | .loading => true
  | _ => false

/-- The final state a feed's answer leads to. -/
def ofFetch : Except FeedError LaunchPage → LaunchesState
  | .ok page => if page.results.isEmpty then .empty else .success page.results
  | .error _ => .error

end LaunchesState

/-- The launches widget: its fetch state, its card layout and its viewport. -/
structure LaunchesWidget where
  state : LaunchesState := .loading
  layout : CardLayout
  viewport : Viewport

namespace LaunchesWidget

/-- A fresh widget on a viewport, laid out for the viewport's width. -/
def create (watch : ViewportWatch) (viewport : Viewport) : LaunchesWidget :=
  { layout := .forWidth (viewport.width watch), viewport }

/-- Whether loading would ask the feed. -/
def asks (w : LaunchesWidget) : Bool := w.state.isLoading

/-- Runs the single fetch with the feed's answer; a no-op once the state is final. -/
def load (w : LaunchesWidget) (fetch : Except FeedError LaunchPage) : LaunchesWidget :=
  if w.state.isLoading then { w with state := .ofFetch fetch } else w

/-- Every fetched record; none unless the fetch succeeded. -/
def launches (w : LaunchesWidget) : List Launch :=
  match w.state with
  | .success ls => ls
  | _ => []

/-- The records shown as cards. -/
def visible (w : LaunchesWidget) : List Launch :=
  w.launches.take (w.layout.visibleLen w.launches.length)

/-- Cards before expansion; also the number of placeholders while loading. -/
def initialCount (w : LaunchesWidget) : Nat := w.layout.initial

/-- Whether the show-more control is present. -/
def canShowMore (w : LaunchesWidget) : Bool := w.layout.canShowMore w.launches.length

/-- Whether the reader expanded the list. -/
def isExpanded (w : LaunchesWidget) : Bool := w.layout.expanded

/-- Flips between the initial count and the expanded maximum, when the control is
present. -/
def toggleShowMore (w : LaunchesWidget) : LaunchesWidget :=
  if w.canShowMore then { w with layout := w.layout.toggle } else w

/-- Sets the expansion, when the control is present. -/
def setExpanded (w : LaunchesWidget) (expanded : Bool) : LaunchesWidget :=
  if w.isExpanded != expanded then w.toggleShowMore else w

/-- Takes note of a pending resize; answers whether the initial count changed. -/
def syncViewport (w : LaunchesWidget) (watch : ViewportWatch) : LaunchesWidget × Bool :=
  let (viewport, pending) := w.viewport.resized watch
  if pending then
    let (layout, changed) := w.layout.resize (viewport.width watch)
    ({ w with viewport, layout }, changed)
  else ({ w with viewport }, false)

end LaunchesWidget

/-- Loading twice is loading once. -/
theorem load_load (w : LaunchesWidget) (a b : Except FeedError LaunchPage) :
    (w.load a).load b = w.load a := by
  unfold LaunchesWidget.load
  split
  · rename_i h
    cases a with
    | error => rfl
    | ok p =>
      simp only [LaunchesState.ofFetch]
      split <;> rfl
  · rfl

/-- After a load the widget never asks the feed again. -/
theorem load_asks (w : LaunchesWidget) (a : Except FeedError LaunchPage) :
    (w.load a).asks = false := by
  unfold LaunchesWidget.load LaunchesWidget.asks
  split
  · cases a with
    | error => rfl
    | ok p => simp only [LaunchesState.ofFetch]; split <;> rfl
  · rename_i h; simpa using h

/-- The cards shown never outnumber the records. -/
theorem visible_length_le (w : LaunchesWidget) : w.visible.length ≤ w.launches.length := by
  simp only [LaunchesWidget.visible, List.length_take]
  exact Nat.min_le_right _ _

end SpaceTeamSite.Widget
