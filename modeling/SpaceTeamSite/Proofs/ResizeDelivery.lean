import SpaceTeamSite.Proofs.LaunchesWidget

/-!
# Resize notifications reach the launches widget

The page publishes widths on its `ViewportWatch`. A launches widget listens through a
viewport subscribed to the watch, made perhaps after a few widths were already
published. From then on the page may publish more widths, the widget's viewport may be
asked for its width, and the widget may take in what its viewport was notified of
(`syncViewport`), in any interleaving.

Count the publications the listener has not yet taken note of (`unnoted`): those since
its last sync, or since it subscribed if it never synced. One invariant carries every
run (`Listening.Tracks`): the listener is behind the watch by exactly that count, and
when it is behind by none, the cards are laid out for the watch's latest width. A
publication adds one to the count, a read leaves it, and a sync brings it to zero while
laying the cards out for the latest width. So, after any interleaving:

* a read gives the latest width, and a resize is pending exactly when some publication
  is not yet noted, reads in between or not;
* a sync lays the cards out for the latest width, however many publications it takes in;
* a sync answers whether it changed the initial count;
* a sync with nothing published since the last note changes nothing and answers false.
-/

namespace SpaceTeamSite.Widget

/-! ## A watch with one listening widget -/

/-- What can happen between the page's watch and a launches widget listening to it. -/
inductive WatchEvent where
  /-- The page publishes a width, possibly the one it already has. -/
  | resize (width : Nat)
  /-- The widget's viewport is asked for its width. -/
  | readWidth
  /-- The widget takes in what its viewport was notified of. -/
  | sync
  deriving DecidableEq, Repr

/-- The page's watch with one launches widget listening to it. -/
structure Listening where
  watch : ViewportWatch
  widget : LaunchesWidget

namespace Listening

/-- A watch made at `width`, a listener subscribed to it, the widths `early` published
before the widget is made, and the widget made on that listener. -/
def attach (width : Nat) (early : List Nat) : Listening :=
  let (watch, vp) := ({ width } : ViewportWatch).subscribe
  let watch := early.foldl ViewportWatch.publish watch
  ⟨watch, LaunchesWidget.create watch vp⟩

/-- The width a read of the widget's viewport gives. -/
def width (s : Listening) : Nat := s.widget.viewport.width s.watch

/-- What a sync answers: whether the initial count changed. -/
def syncAnswer (s : Listening) : Bool := (s.widget.syncViewport s.watch).2

/-- One event. A read only gives `width`: reading takes note of nothing. -/
def step (s : Listening) : WatchEvent → Listening
  | .resize width => { s with watch := s.watch.publish width }
  | .readWidth => s
  | .sync => { s with widget := (s.widget.syncViewport s.watch).1 }

/-- Events in order. -/
def run (s : Listening) (evs : List WatchEvent) : Listening := evs.foldl step s

@[simp] theorem run_nil (s : Listening) : s.run [] = s := rfl

@[simp] theorem run_cons (s : Listening) (e : WatchEvent) (evs : List WatchEvent) :
    s.run (e :: evs) = (s.step e).run evs := rfl

end Listening

/-! ## What the events say on their own -/

/-- The publications a listener has not taken note of after `evs`, when it started `n`
behind: a sync takes note of all of them, a read of none. -/
def unnoted : Nat → List WatchEvent → Nat
  | n, [] => n
  | n, .resize _ :: evs => unnoted (n + 1) evs
  | n, .readWidth :: evs => unnoted n evs
  | _, .sync :: evs => unnoted 0 evs

/-- The width published last in `evs`, or `width` if none is. -/
def latestWidth : Nat → List WatchEvent → Nat
  | width, [] => width
  | _, .resize width :: evs => latestWidth width evs
  | width, .readWidth :: evs => latestWidth width evs
  | width, .sync :: evs => latestWidth width evs

/-! ## Publishing -/

namespace ViewportWatch

theorem foldl_publish_width (early : List Nat) (watch : ViewportWatch) :
    (early.foldl publish watch).width = early.getLastD watch.width := by
  induction early generalizing watch with
  | nil => rfl
  | cons w early ih =>
    rw [List.foldl_cons, ih, List.getLastD_cons]
    rfl

theorem foldl_publish_version (early : List Nat) (watch : ViewportWatch) :
    (early.foldl publish watch).version = watch.version + early.length := by
  induction early generalizing watch with
  | nil => rfl
  | cons w early ih =>
    rw [List.foldl_cons, ih, List.length_cons]
    simp only [publish]
    omega

end ViewportWatch

/-! ## What a sync does -/

namespace LaunchesWidget

/-- A sync answers whether it changed the initial count. -/
theorem syncViewport_snd (w : LaunchesWidget) (watch : ViewportWatch) :
    (w.syncViewport watch).2 = true ↔
      (w.syncViewport watch).1.initialCount ≠ w.initialCount := by
  unfold syncViewport initialCount
  rcases w.viewport.resized watch with ⟨vp, pending⟩
  cases pending with
  | true => simp [CardLayout.resize]
  | false => simp

end LaunchesWidget

/-! ## The invariant -/

namespace Listening

/-- The listener is `n` publications behind the watch, and when it is behind by none,
the cards are laid out for the watch's latest width. -/
structure Tracks (s : Listening) (n : Nat) : Prop where
  behind : ∃ seen, s.widget.viewport = .watched seen ∧ seen + n = s.watch.version
  laidOut : n = 0 → s.widget.layout.initial = initialCount s.watch.width

variable {s : Listening} {n : Nat}

/-- A resize is pending exactly when the listener is behind. -/
theorem Tracks.pending_iff (h : s.Tracks n) :
    (s.widget.viewport.resized s.watch).2 = true ↔ 0 < n := by
  obtain ⟨seen, hvp, hseen⟩ := h.behind
  rw [hvp]
  simp only [Viewport.resized, bne_iff_ne, ne_eq]
  omega

/-- A sync lays the cards out for the latest width: it reads that width when a resize
is pending, and the cards already are when none is. -/
theorem Tracks.sync_initial (h : s.Tracks n) :
    (s.step .sync).widget.layout.initial = initialCount s.watch.width := by
  obtain ⟨seen, hvp, hseen⟩ := h.behind
  have hsync := s.widget.syncViewport_fst s.watch
  simp only [step, hsync, hvp, Viewport.resized]
  by_cases hnote : seen = s.watch.version
  · -- nothing pending: the listener is behind by none
    have hlaid := h.laidOut (by omega)
    simp [hnote, hlaid]
  · simp [hnote, CardLayout.resize, Viewport.width]

/-- A sync leaves the listener behind by none. -/
theorem Tracks.sync (h : s.Tracks n) : (s.step .sync).Tracks 0 := by
  obtain ⟨seen, hvp, hseen⟩ := h.behind
  have hsync := s.widget.syncViewport_fst s.watch
  refine ⟨⟨s.watch.version, ?_, rfl⟩, fun _ => h.sync_initial⟩
  simp [step, hsync, hvp, Viewport.resized]

/-- A publication puts the listener one further behind. -/
theorem Tracks.resize (h : s.Tracks n) (width : Nat) : (s.step (.resize width)).Tracks (n + 1) := by
  obtain ⟨seen, hvp, hseen⟩ := h.behind
  refine ⟨⟨seen, hvp, ?_⟩, fun hzero => absurd hzero (Nat.succ_ne_zero n)⟩
  simp only [step, ViewportWatch.publish]
  omega

/-- A sync with nothing pending changes nothing and answers false. -/
theorem Tracks.sync_of_noted (h : s.Tracks 0) : s.step .sync = s ∧ s.syncAnswer = false := by
  obtain ⟨seen, hvp, hseen⟩ := h.behind
  -- the listener has noted the latest publication, so its viewport reports nothing
  have hres : s.widget.viewport.resized s.watch = (s.widget.viewport, false) := by
    rw [hvp]
    simp only [Viewport.resized, Prod.mk.injEq, Viewport.watched.injEq, bne_eq_false_iff_eq]
    omega
  have hsync : s.widget.syncViewport s.watch = (s.widget, false) := by
    rcases hw : s.widget with ⟨state, layout, vp⟩
    rw [hw] at hres
    simp [LaunchesWidget.syncViewport, hres]
  exact ⟨by simp [step, hsync], by simp [syncAnswer, hsync]⟩

/-- **Every run keeps the invariant**, the listener being behind by the publications
not yet noted. -/
theorem Tracks.run (h : s.Tracks n) (evs : List WatchEvent) : (s.run evs).Tracks (unnoted n evs) := by
  -- on the events, for every state and count: each event is one step lemma
  induction evs generalizing s n with
  | nil => exact h
  | cons e evs ih =>
    cases e with
    | resize width => exact ih (h.resize width)
    | readWidth => exact ih h
    | sync => exact ih h.sync

/-- The watch's width is the one published last. -/
theorem run_width (s : Listening) (evs : List WatchEvent) :
    (s.run evs).watch.width = latestWidth s.watch.width evs := by
  induction evs generalizing s with
  | nil => rfl
  | cons e evs ih =>
    cases e with
    | resize width => exact ih _
    | readWidth => exact ih _
    | sync => exact ih _

/-- A widget made on a fresh listener is behind by the publications made before it,
and is laid out for the latest width. -/
theorem attach_tracks (width : Nat) (early : List Nat) :
    (attach width early).Tracks early.length := by
  refine ⟨⟨0, rfl, ?_⟩, fun _ => rfl⟩
  simp only [attach, ViewportWatch.subscribe, ViewportWatch.foldl_publish_version]

theorem attach_width (width : Nat) (early : List Nat) :
    (attach width early).watch.width = early.getLastD width :=
  ViewportWatch.foldl_publish_width early _

end Listening

/-! ## Every interleaving -/

/-- **Resize notifications reach the widget.** Take a watch made at `width`, a widget on
a listener that subscribed before the widths `early` were published, and then any
interleaving `evs` of publications, reads and syncs. A read gives the latest width; a
resize is pending exactly when some publication is not yet noted, whatever reads came
since; a sync then lays the cards out for the latest width, so no resize is lost,
however many came; it answers whether the initial count changed; and when nothing was
published since the last note, it changes nothing and answers false. -/
theorem resize_notices_reach_widget (width : Nat) (early : List Nat) (evs : List WatchEvent) :
    let s := (Listening.attach width early).run evs
    let latest := latestWidth (early.getLastD width) evs
    let n := unnoted early.length evs
    s.width = latest ∧
    ((s.widget.viewport.resized s.watch).2 = true ↔ 0 < n) ∧
    (s.step .sync).widget.initialCount = initialCount latest ∧
    (s.syncAnswer = true ↔ (s.step .sync).widget.initialCount ≠ s.widget.initialCount) ∧
    (n = 0 → s.step .sync = s ∧ s.syncAnswer = false) := by
  intro s latest n
  have htracks : s.Tracks n := (Listening.attach_tracks width early).run evs
  have hlatest : s.watch.width = latest := by
    rw [Listening.run_width, Listening.attach_width]
  obtain ⟨seen, hvp, -⟩ := htracks.behind
  refine ⟨?_, htracks.pending_iff, ?_, s.widget.syncViewport_snd s.watch, fun hn => ?_⟩
  · -- a watched viewport reads the watch's width
    simp only [Listening.width, hvp, Viewport.width, hlatest]
  · rw [LaunchesWidget.initialCount, htracks.sync_initial, hlatest]
  · rw [hn] at htracks
    exact htracks.sync_of_noted

/-- A widget made while the page was told of a tablet width, then told twice of a phone
width, lays out one card at its next sync. -/
example :
    ((Listening.attach 1280 [700]).run [.readWidth, .resize 375, .resize 375, .sync]).widget.initialCount =
      1 := by
  decide

end SpaceTeamSite.Widget
