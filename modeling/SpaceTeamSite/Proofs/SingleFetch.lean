import SpaceTeamSite.Widget.Fetch
import SpaceTeamSite.Proofs.LaunchesWidget
import Mathlib.Logic.Function.Iterate

/-!
# Each widget asks its feed once

A widget waits until its first load, which asks the feed and settles the widget for
good: every later load returns at once, without a request. The argument is the same
for both widgets and is made once, for `loadWith`, from one property of the widget:
settling it ends its waiting. Over any run of the launches widget's operations, then,
the state is `loading` until the first load and the final state the feed's first answer
leads to afterwards, and the feed has been asked once or never; the picture widget,
which has no other operation, is the same over any number of loads.

The final states are read off the feed's answer: `empty` for a page without launches,
`success` with the page's launches otherwise, `error` when there is no page; for the
picture, `success` for an image with an address, `noImage` with the record for any other
record, `error` when there is none.

When a page loads both widgets together, each poll of the join advances one load and
leaves the other alone (the frame lemmas), so after any order of polls each load has
been polled some number of times, and polled to the end it is its load run alone. The
two loads therefore end as if run one after the other, in either order, and each
widget's final state is fixed by its own feed.
-/

namespace SpaceTeamSite.Widget

/-! ## One load, for both widgets -/

section Load

variable {W α : Type} {asks : W → Bool} {settle : W → Except FeedError α → W}

theorem loadWith_of_asks {w : W} (f : Feed α) (h : asks w = true) :
    loadWith asks settle w f = (settle w (f.answer f.calls), { f with calls := f.calls + 1 }) := by
  simp [loadWith, h, Feed.request]

/-- A settled widget's load does nothing, and asks nothing. -/
theorem loadWith_of_settled {w : W} (f : Feed α) (h : asks w = false) :
    loadWith asks settle w f = (w, f) := by
  simp [loadWith, h]

variable (hsettle : ∀ w a, asks (settle w a) = false)
include hsettle

/-- After a load the widget no longer waits. -/
theorem asks_loadWith (w : W) (f : Feed α) : asks (loadWith asks settle w f).1 = false := by
  cases h : asks w with
  | true => rw [loadWith_of_asks f h]; exact hsettle _ _
  | false => rw [loadWith_of_settled f h]; exact h

/-- **Loading again changes nothing**: neither the widget nor the feed. -/
theorem loadWith_loadWith (w : W) (f : Feed α) :
    loadWith asks settle (loadWith asks settle w f).1 (loadWith asks settle w f).2 =
      loadWith asks settle w f :=
  loadWith_of_settled _ (asks_loadWith hsettle w f)

end Load

/-! ## One load in flight -/

section Poll

variable {W α : Type} (asks : W → Bool) (settle : W → Except FeedError α → W)

/-- A load that returned stays returned. -/
theorem poll_finished {l : Loading W α} (h : l.stage = .finished) :
    l.poll asks settle = l := by
  simp [Loading.poll, h]

/-- Two polls take a fresh load to its end: the load run alone. -/
theorem poll_poll_fresh (w : W) (f : Feed α) :
    ((Loading.mk w f .fresh).poll asks settle).poll asks settle =
      ⟨(loadWith asks settle w f).1, (loadWith asks settle w f).2, .finished⟩ := by
  cases h : asks w with
  | true => simp [Loading.poll, loadWith, h, Feed.request]
  | false => simp [Loading.poll, loadWith, h]

/-- **However often a load was polled before, two more polls end it**, as the load run
alone. -/
theorem poll_poll_iterate_fresh (w : W) (f : Feed α) (n : Nat) :
    (((Loading.poll asks settle)^[n] ⟨w, f, .fresh⟩).poll asks settle).poll asks settle =
      ⟨(loadWith asks settle w f).1, (loadWith asks settle w f).2, .finished⟩ := by
  -- the first two polls end the load; every poll after that leaves it alone
  induction n with
  | zero => exact poll_poll_fresh asks settle w f
  | succ n ih =>
    rw [Function.iterate_succ_apply', ih]
    exact poll_finished asks settle rfl

end Poll

/-! ## The join -/

namespace PageLoad

/-- Polling the launches load leaves the picture's alone. -/
@[simp] theorem poll_launches_picture (l : PageLoad) : (l.poll .launches).picture = l.picture := rfl

@[simp] theorem poll_launches_launches (l : PageLoad) :
    (l.poll .launches).launches = l.launches.poll LaunchesWidget.asks LaunchesWidget.load := rfl

/-- Polling the picture's load leaves the launches load alone. -/
@[simp] theorem poll_picture_launches (l : PageLoad) : (l.poll .picture).launches = l.launches := rfl

@[simp] theorem poll_picture_picture (l : PageLoad) :
    (l.poll .picture).picture = l.picture.poll PictureState.isLoading PictureState.load := rfl

/-- After any order of polls, the launches load has been polled once per turn it had. -/
theorem foldl_poll_launches (order : List LiveWidget) (l : PageLoad) :
    (order.foldl poll l).launches =
      (Loading.poll LaunchesWidget.asks LaunchesWidget.load)^[order.count .launches] l.launches := by
  induction order generalizing l with
  | nil => rfl
  | cons turn order ih =>
    rw [List.foldl_cons, ih]
    cases turn with
    | launches => simp [Function.iterate_succ_apply]
    | picture => simp

/-- After any order of polls, the picture's load has been polled once per turn it had. -/
theorem foldl_poll_picture (order : List LiveWidget) (l : PageLoad) :
    (order.foldl poll l).picture =
      (Loading.poll PictureState.isLoading PictureState.load)^[order.count .picture] l.picture := by
  induction order generalizing l with
  | nil => rfl
  | cons turn order ih =>
    rw [List.foldl_cons, ih]
    cases turn with
    | launches => simp
    | picture => simp [Function.iterate_succ_apply]

end PageLoad

/-- **Loading both widgets together is loading each alone.** Whatever order the loads
progress in, each ends as its own load run alone. -/
theorem loadBoth_eq (order : List LiveWidget) (p : PageWidgets) :
    loadBoth order p =
      ⟨(p.launches.loadFrom p.launchesFeed).1, (p.launches.loadFrom p.launchesFeed).2,
        (p.picture.loadFrom p.pictureFeed).1, (p.picture.loadFrom p.pictureFeed).2⟩ := by
  -- each load gets its order's polls, then the two the join adds
  simp only [loadBoth, PageLoad.widgets, PageLoad.poll_picture_launches,
    PageLoad.poll_launches_launches, PageLoad.poll_picture_picture,
    PageLoad.poll_launches_picture, PageLoad.foldl_poll_launches, PageLoad.foldl_poll_picture,
    PageLoad.start, poll_poll_iterate_fresh]
  rfl

namespace PageWidgets

theorem loadLaunches_loadPicture (p : PageWidgets) :
    p.loadLaunches.loadPicture =
      ⟨(p.launches.loadFrom p.launchesFeed).1, (p.launches.loadFrom p.launchesFeed).2,
        (p.picture.loadFrom p.pictureFeed).1, (p.picture.loadFrom p.pictureFeed).2⟩ := rfl

theorem loadPicture_loadLaunches (p : PageWidgets) :
    p.loadPicture.loadLaunches =
      ⟨(p.launches.loadFrom p.launchesFeed).1, (p.launches.loadFrom p.launchesFeed).2,
        (p.picture.loadFrom p.pictureFeed).1, (p.picture.loadFrom p.pictureFeed).2⟩ := rfl

end PageWidgets

/-! ## Final states -/

namespace LaunchesState

variable (a : Except FeedError LaunchPage)

theorem ofFetch_eq_empty_iff : ofFetch a = .empty ↔ ∃ p, a = .ok p ∧ p.results = [] := by
  cases a with
  | error e => simp [ofFetch]
  | ok p => by_cases h : p.results = [] <;> simp [ofFetch, h]

theorem ofFetch_eq_success_iff (ls : List Launch) :
    ofFetch a = .success ls ↔ ∃ p, a = .ok p ∧ p.results = ls ∧ ls ≠ [] := by
  cases a with
  | error e => simp [ofFetch]
  | ok p =>
    by_cases h : p.results = []
    · simp only [ofFetch, h, List.isEmpty_nil, if_true, reduceCtorEq, false_iff, not_exists,
        not_and, Except.ok.injEq]
      rintro _ rfl hls; exact fun hne => hne (hls ▸ h)
    · simp only [ofFetch, List.isEmpty_iff, h, if_false, success.injEq, Except.ok.injEq]
      constructor
      · rintro rfl; exact ⟨p, rfl, rfl, h⟩
      · rintro ⟨_, rfl, hls, -⟩; exact hls

theorem ofFetch_eq_error_iff : ofFetch a = .error ↔ ∃ e, a = .error e := by
  cases a with
  | error e => simp [ofFetch]
  | ok p => by_cases h : p.results = [] <;> simp [ofFetch, h]

end LaunchesState

namespace PictureState

variable (a : Except FeedError PictureRecord)

/-- What makes a record a picture to show: a still image with an address. -/
theorem showable_iff (r : PictureRecord) :
    (r.isImage && r.imageUrl.isSome) = true ↔
      r.mediaType = "image" ∧ ∃ u, r.url = some u ∧ u ≠ "" := by
  simp only [Bool.and_eq_true, PictureRecord.isImage, PictureRecord.imageMediaType, beq_iff_eq,
    Option.isSome_iff_exists, PictureRecord.imageUrl_eq_some_iff]

theorem ofFetch_eq_success_iff (r : PictureRecord) :
    ofFetch a = .success r ↔ a = .ok r ∧ r.mediaType = "image" ∧ ∃ u, r.url = some u ∧ u ≠ "" := by
  cases a with
  | error e => simp [ofFetch]
  | ok r' =>
    rw [← showable_iff]
    by_cases h : (r'.isImage && r'.imageUrl.isSome) = true
    · simp only [ofFetch, h, if_true, success.injEq, Except.ok.injEq]
      constructor
      · rintro rfl; exact ⟨rfl, h⟩
      · exact And.left
    · simp only [ofFetch, h, Bool.false_eq_true, if_false, reduceCtorEq, false_iff, not_and,
        Except.ok.injEq]
      rintro rfl; exact h

theorem ofFetch_eq_noImage_iff (r : PictureRecord) :
    ofFetch a = .noImage r ↔
      a = .ok r ∧ ¬ (r.mediaType = "image" ∧ ∃ u, r.url = some u ∧ u ≠ "") := by
  cases a with
  | error e => simp [ofFetch]
  | ok r' =>
    rw [← showable_iff]
    by_cases h : (r'.isImage && r'.imageUrl.isSome) = true
    · simp only [ofFetch, h, if_true, reduceCtorEq, false_iff, not_and, Except.ok.injEq]
      rintro rfl; exact fun h' => h' h
    · simp only [ofFetch, h, Bool.false_eq_true, if_false, noImage.injEq, Except.ok.injEq]
      constructor
      · rintro rfl; exact ⟨rfl, h⟩
      · exact And.left

theorem ofFetch_eq_error_iff : ofFetch a = .error ↔ ∃ e, a = .error e := by
  cases a with
  | error e => simp [ofFetch]
  | ok r => simp only [ofFetch]; split <;> simp

end PictureState

/-! ## Runs -/

/-- Whether an operation is a load. -/
def LaunchesOp.isLoad : LaunchesOp → Bool
  | .load => true
  | _ => false

namespace LaunchesWidget

/-- One operation, a load asking the feed. -/
def stepFrom (p : LaunchesWidget × Feed LaunchPage) : LaunchesOp → LaunchesWidget × Feed LaunchPage
  | .load => p.1.loadFrom p.2
  | .toggleShowMore => (p.1.toggleShowMore, p.2)
  | .setExpanded b => (p.1.setExpanded b, p.2)
  | .syncViewport watch => ((p.1.syncViewport watch).1, p.2)

/-- Operations in order, loads asking the feed. -/
def runFrom (p : LaunchesWidget × Feed LaunchPage) (ops : List LaunchesOp) :
    LaunchesWidget × Feed LaunchPage :=
  ops.foldl stepFrom p

@[simp] theorem runFrom_nil (p : LaunchesWidget × Feed LaunchPage) : runFrom p [] = p := rfl

@[simp] theorem runFrom_cons (p : LaunchesWidget × Feed LaunchPage) (op : LaunchesOp)
    (ops : List LaunchesOp) : runFrom p (op :: ops) = runFrom (stepFrom p op) ops := rfl

/-- An operation other than a load keeps the state and asks nothing. -/
theorem stepFrom_of_not_load (p : LaunchesWidget × Feed LaunchPage) {op : LaunchesOp}
    (h : op.isLoad = false) : (stepFrom p op).1.state = p.1.state ∧ (stepFrom p op).2 = p.2 := by
  cases op with
  | load => simp [LaunchesOp.isLoad] at h
  | toggleShowMore => simp [stepFrom]
  | setExpanded b => simp [stepFrom]
  | syncViewport watch => simp [stepFrom]

/-- A settled widget keeps its state over any run, and asks nothing. -/
theorem runFrom_settled (ops : List LaunchesOp) :
    ∀ p : LaunchesWidget × Feed LaunchPage, p.1.asks = false →
      (runFrom p ops).1.state = p.1.state ∧ (runFrom p ops).2 = p.2 := by
  induction ops with
  | nil => intro p _; exact ⟨rfl, rfl⟩
  | cons op ops ih =>
    intro p hp
    rw [runFrom_cons]
    cases hop : op.isLoad with
    | true =>
      -- a load of a settled widget is no step at all
      cases op <;> simp [LaunchesOp.isLoad] at hop
      have hstep : stepFrom p .load = p := (loadWith_of_settled p.2 hp).trans (Prod.eta p)
      rw [hstep]
      exact ih p hp
    | false =>
      obtain ⟨hstate, hfeed⟩ := stepFrom_of_not_load p hop
      have hasks : (stepFrom p op).1.asks = false := by simpa [asks, hstate] using hp
      obtain ⟨h1, h2⟩ := ih _ hasks
      exact ⟨h1.trans hstate, h2.trans hfeed⟩

/-- **A waiting widget over any run.** Until the first load it waits and the feed is not
asked; from the first load on, its state is the one the feed's answer to that one request
leads to. -/
theorem runFrom_waiting (ops : List LaunchesOp) :
    ∀ p : LaunchesWidget × Feed LaunchPage, p.1.state = .loading →
      (runFrom p ops).1.state =
          (if ops.any LaunchesOp.isLoad then .ofFetch (p.2.answer p.2.calls) else .loading) ∧
        (runFrom p ops).2 = (if ops.any LaunchesOp.isLoad then p.2.request.2 else p.2) := by
  induction ops with
  | nil => intro p hp; exact ⟨by simpa using hp, by simp⟩
  | cons op ops ih =>
    intro p hp
    have hasks : p.1.asks = true := by simp [asks, hp, LaunchesState.isLoading]
    rw [runFrom_cons]
    cases hop : op.isLoad with
    | true =>
      -- the first load asks, and settles the widget for the rest of the run
      cases op <;> simp [LaunchesOp.isLoad] at hop
      have hstep : stepFrom p .load = (p.1.load (p.2.answer p.2.calls), p.2.request.2) :=
        loadWith_of_asks p.2 hasks
      have hsettled : (p.1.load (p.2.answer p.2.calls)).state = .ofFetch (p.2.answer p.2.calls) := by
        simp [LaunchesWidget.load, hp, LaunchesState.isLoading]
      obtain ⟨h1, h2⟩ := runFrom_settled ops (p.1.load (p.2.answer p.2.calls), p.2.request.2)
        (load_asks p.1 (p.2.answer p.2.calls))
      rw [hstep]
      simp only [List.any_cons, LaunchesOp.isLoad, Bool.true_or, if_true]
      exact ⟨h1.trans hsettled, h2⟩
    | false =>
      obtain ⟨hstate, hfeed⟩ := stepFrom_of_not_load p hop
      obtain ⟨h1, h2⟩ := ih _ (hstate.trans hp)
      simp only [List.any_cons, hop, Bool.false_or]
      rw [hfeed] at h1 h2
      exact ⟨h1, h2⟩

end LaunchesWidget

namespace PictureState

/-- **The picture widget over any number of loads.** It waits until the first, which asks
the feed once; the state is then the one the answer leads to, and later loads ask
nothing. -/
theorem loads_from_loading (f : Feed PictureRecord) (n : Nat) :
    (fun p : PictureState × Feed PictureRecord => p.1.loadFrom p.2)^[n] (.loading, f) =
      if n = 0 then (.loading, f) else (.ofFetch (f.answer f.calls), f.request.2) := by
  cases n with
  | zero => rfl
  | succ n =>
    -- the first load settles the widget; every later one returns what it is given
    have hfirst : PictureState.loading.loadFrom f = (.ofFetch (f.answer f.calls), f.request.2) :=
      loadWith_of_asks f rfl
    induction n with
    | zero => simpa using hfirst
    | succ n ih =>
      rw [Function.iterate_succ_apply', ih]
      simp only [Nat.add_one_ne_zero, if_false]
      rw [← hfirst]
      exact loadWith_loadWith isLoading_load .loading f

end PictureState

/-! ## The fetch contract -/

/-- **Each widget asks its feed once.** Over any run of a fresh launches widget's
operations, and any number of loads of a fresh picture widget, against any feed: the
widget waits until its first load, whose one request fixes its state from then on, and
the feed is asked once or never. The final state is read off the answer. Loading both
widgets together, in any order of progress, is loading each alone, in either order, so
each widget's final state is its own feed's. -/
theorem widgets_fetch_once :
    (∀ (f : Feed LaunchPage) (watch : ViewportWatch) (vp : Viewport) (ops : List LaunchesOp),
      let r := LaunchesWidget.runFrom (LaunchesWidget.create watch vp, f) ops
      r.1.state = (if ops.any LaunchesOp.isLoad then .ofFetch (f.answer f.calls) else .loading) ∧
        r.2 = (if ops.any LaunchesOp.isLoad then f.request.2 else f)) ∧
    (∀ (f : Feed PictureRecord) (n : Nat),
      (fun p : PictureState × Feed PictureRecord => p.1.loadFrom p.2)^[n] (.loading, f) =
        if n = 0 then (.loading, f) else (.ofFetch (f.answer f.calls), f.request.2)) ∧
    (∀ a : Except FeedError LaunchPage,
      (LaunchesState.ofFetch a = .empty ↔ ∃ p, a = .ok p ∧ p.results = []) ∧
      (∀ ls, LaunchesState.ofFetch a = .success ls ↔ ∃ p, a = .ok p ∧ p.results = ls ∧ ls ≠ []) ∧
      (LaunchesState.ofFetch a = .error ↔ ∃ e, a = .error e)) ∧
    (∀ a : Except FeedError PictureRecord,
      (∀ r, PictureState.ofFetch a = .success r ↔
        a = .ok r ∧ r.mediaType = "image" ∧ ∃ u, r.url = some u ∧ u ≠ "") ∧
      (∀ r, PictureState.ofFetch a = .noImage r ↔
        a = .ok r ∧ ¬ (r.mediaType = "image" ∧ ∃ u, r.url = some u ∧ u ≠ "")) ∧
      (PictureState.ofFetch a = .error ↔ ∃ e, a = .error e)) ∧
    (∀ (order : List LiveWidget) (p : PageWidgets),
      loadBoth order p = p.loadLaunches.loadPicture ∧
        loadBoth order p = p.loadPicture.loadLaunches ∧
        (loadBoth order p).launches = (p.launches.loadFrom p.launchesFeed).1 ∧
        (loadBoth order p).picture = (p.picture.loadFrom p.pictureFeed).1) := by
  refine ⟨fun f watch vp ops => LaunchesWidget.runFrom_waiting ops _ rfl,
    PictureState.loads_from_loading,
    fun a => ⟨LaunchesState.ofFetch_eq_empty_iff a, LaunchesState.ofFetch_eq_success_iff a,
      LaunchesState.ofFetch_eq_error_iff a⟩,
    fun a => ⟨PictureState.ofFetch_eq_success_iff a, PictureState.ofFetch_eq_noImage_iff a,
      PictureState.ofFetch_eq_error_iff a⟩,
    fun order p => ?_⟩
  rw [loadBoth_eq, PageWidgets.loadLaunches_loadPicture, PageWidgets.loadPicture_loadLaunches]
  exact ⟨rfl, rfl, rfl, rfl⟩

end SpaceTeamSite.Widget
