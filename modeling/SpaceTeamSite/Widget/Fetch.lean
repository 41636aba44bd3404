import SpaceTeamSite.Widget.Launches
import SpaceTeamSite.Widget.Picture

/-!
# One request per widget, two widgets per page

A feed answers requests, possibly differently each time: `Feed` holds its answer to each
request by the request's number, and counts the requests made. A widget's load asks its
feed only while the widget still waits, so a widget asks at most once and every later
load returns at once (`loadWith`, one definition for both widgets).

A page load runs the two widgets' loads together. Each load is a future that the join
polls: its first poll asks the feed, or returns at once when the widget has settled, and
a later poll settles the widget with the answer (`Loading.poll`). Which future can make
progress when is up to the network, so `loadBoth` takes the order of the polls as an
argument, and then polls each load until it returns, as the join does before it
returns itself.
-/

namespace SpaceTeamSite.Widget

/-- A feed as a widget sees it: its answer to each request, by the request's number from
zero, and the number of requests made so far. -/
structure Feed (α : Type) where
  answer : Nat → Except FeedError α
  calls : Nat := 0

namespace Feed

variable {α : Type}

/-- A feed that answers every request alike, asked by no one yet. -/
def always (a : Except FeedError α) : Feed α := { answer := fun _ => a }

/-- One request: the feed's answer to it, and the feed having counted it. -/
def request (f : Feed α) : Except FeedError α × Feed α :=
  (f.answer f.calls, { f with calls := f.calls + 1 })

end Feed

section Load

variable {W α : Type} (asks : W → Bool) (settle : W → Except FeedError α → W)

/-- A widget's load against its feed: while the widget waits (`asks`), one request, and
the widget settled with the answer; once settled, nothing. -/
def loadWith (w : W) (f : Feed α) : W × Feed α :=
  if asks w then
    let (answer, f') := f.request
    (settle w answer, f')
  else (w, f)

/-- How far a widget's load has got. -/
inductive LoadStage (α : Type) where
  /-- Not polled yet. -/
  | fresh
  /-- The feed was asked; its answer is on the way. -/
  | asked (answer : Except FeedError α)
  /-- The load returned. -/
  | finished

/-- A load in flight: the widget, its feed, and how far the load has got. -/
structure Loading (W α : Type) where
  widget : W
  feed : Feed α
  stage : LoadStage α := .fresh

/-- One poll of a load: a fresh load asks the feed while the widget waits and otherwise
returns at once; an asked load settles the widget with the answer. -/
def Loading.poll (l : Loading W α) : Loading W α :=
  match l.stage with
  | .fresh =>
    if asks l.widget then
      let (answer, f') := l.feed.request
      { l with feed := f', stage := .asked answer }
    else { l with stage := .finished }
  | .asked answer => { l with widget := settle l.widget answer, stage := .finished }
  | .finished => l

end Load

/-- The launches widget's load against its feed. -/
def LaunchesWidget.loadFrom (w : LaunchesWidget) (f : Feed LaunchPage) :
    LaunchesWidget × Feed LaunchPage :=
  loadWith LaunchesWidget.asks LaunchesWidget.load w f

/-- The picture widget's load against its feed. -/
def PictureState.loadFrom (s : PictureState) (f : Feed PictureRecord) :
    PictureState × Feed PictureRecord :=
  loadWith PictureState.isLoading PictureState.load s f

/-- The two live widgets of a page, each with its feed. -/
structure PageWidgets where
  launches : LaunchesWidget
  launchesFeed : Feed LaunchPage
  picture : PictureState
  pictureFeed : Feed PictureRecord

/-- One of the two live widgets of a page. -/
inductive LiveWidget where
  | launches
  | picture
  deriving DecidableEq

namespace PageWidgets

/-- The launches widget loaded alone. -/
def loadLaunches (p : PageWidgets) : PageWidgets :=
  let (w, f) := p.launches.loadFrom p.launchesFeed
  { p with launches := w, launchesFeed := f }

/-- The picture widget loaded alone. -/
def loadPicture (p : PageWidgets) : PageWidgets :=
  let (s, f) := p.picture.loadFrom p.pictureFeed
  { p with picture := s, pictureFeed := f }

end PageWidgets

/-- Both loads of a page in flight. -/
structure PageLoad where
  launches : Loading LaunchesWidget LaunchPage
  picture : Loading PictureState PictureRecord

namespace PageLoad

/-- Both loads, not yet polled. -/
def start (p : PageWidgets) : PageLoad :=
  ⟨{ widget := p.launches, feed := p.launchesFeed }, { widget := p.picture, feed := p.pictureFeed }⟩

/-- One poll of one of the loads. -/
def poll (l : PageLoad) : LiveWidget → PageLoad
  | .launches => { l with launches := l.launches.poll LaunchesWidget.asks LaunchesWidget.load }
  | .picture => { l with picture := l.picture.poll PictureState.isLoading PictureState.load }

/-- The widgets and feeds as the loads leave them. -/
def widgets (l : PageLoad) : PageWidgets :=
  ⟨l.launches.widget, l.launches.feed, l.picture.widget, l.picture.feed⟩

end PageLoad

/-- Loads both widgets of a page together. The loads progress in the given `order`; then
each is polled until it returns. -/
def loadBoth (order : List LiveWidget) (p : PageWidgets) : PageWidgets :=
  let l := order.foldl PageLoad.poll (PageLoad.start p)
  ((((l.poll .launches).poll .launches).poll .picture).poll .picture).widgets

end SpaceTeamSite.Widget
