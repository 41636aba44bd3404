import SpaceTeamSite.Widget.Launches

/-!
# The launches widget over any run

A launches widget is driven by four operations: the page loads it, the reader toggles
the show-more control or asks for a given expansion, and the viewport's resize
notifications are taken in. `LaunchesWidget.run` applies any sequence of them, the feed
answering the load and the viewport's watch being in any state at each sync, so that
every width and every pattern of notifications is covered.

The layout keeps one fact through all of it: its initial count is the one for the width
read at creation or at the last sync that found a resize pending (`Viewport.lastRead`).
That count is at most three, below the expanded cap of nine, and everything else
follows from it:

* the cards shown are the first `min n limit` records, `limit` being nine when
  expanded and the initial count otherwise;
* a card is hidden only while the show-more control is present;
* asking for an expansion either gets it or leaves the list whole with no control;
* toggling twice changes nothing, and only loading changes the records.
-/

namespace SpaceTeamSite.Widget

/-- What can happen to a launches widget. -/
inductive LaunchesOp where
  | load
  | toggleShowMore
  | setExpanded (expanded : Bool)
  /-- Take in the viewport's notifications, its watch being in the given state. -/
  | syncViewport (watch : ViewportWatch)

namespace LaunchesWidget

/-- One operation, the feed answering `fetch`. -/
def step (fetch : Except FeedError LaunchPage) (w : LaunchesWidget) : LaunchesOp → LaunchesWidget
  | .load => w.load fetch
  | .toggleShowMore => w.toggleShowMore
  | .setExpanded b => w.setExpanded b
  | .syncViewport watch => (w.syncViewport watch).1

/-- Operations in order. -/
def run (fetch : Except FeedError LaunchPage) (w : LaunchesWidget) (ops : List LaunchesOp) :
    LaunchesWidget :=
  ops.foldl (step fetch) w

@[simp] theorem run_nil (fetch : Except FeedError LaunchPage) (w : LaunchesWidget) :
    w.run fetch [] = w := rfl

@[simp] theorem run_cons (fetch : Except FeedError LaunchPage) (w : LaunchesWidget)
    (op : LaunchesOp) (ops : List LaunchesOp) :
    w.run fetch (op :: ops) = (w.step fetch op).run fetch ops := rfl

end LaunchesWidget

/-- The width read at the last sync of `ops` that finds a resize pending, or `width` if
none does; `vp` is the viewport before the operations. -/
def Viewport.lastRead (vp : Viewport) (width : Nat) : List LaunchesOp → Nat
  | [] => width
  | .syncViewport watch :: ops =>
    let (vp', pending) := vp.resized watch
    vp'.lastRead (if pending then vp'.width watch else width) ops
  | _ :: ops => vp.lastRead width ops

/-! ## What each operation changes -/

namespace LaunchesWidget

variable (w : LaunchesWidget)

/-- The layout after a sync, and the viewport. -/
theorem syncViewport_fst (watch : ViewportWatch) :
    (w.syncViewport watch).1 =
      { w with
        viewport := (w.viewport.resized watch).1
        layout := if (w.viewport.resized watch).2 then
            (w.layout.resize ((w.viewport.resized watch).1.width watch)).1
          else w.layout } := by
  unfold syncViewport
  rcases w.viewport.resized watch with ⟨vp, pending⟩
  cases pending <;> rfl

@[simp] theorem toggleShowMore_state : w.toggleShowMore.state = w.state := by
  unfold toggleShowMore; split <;> rfl

@[simp] theorem setExpanded_state (b : Bool) : (w.setExpanded b).state = w.state := by
  unfold setExpanded; split <;> simp

@[simp] theorem syncViewport_state (watch : ViewportWatch) :
    (w.syncViewport watch).1.state = w.state := by
  rw [syncViewport_fst]

@[simp] theorem toggleShowMore_initial :
    w.toggleShowMore.layout.initial = w.layout.initial := by
  unfold toggleShowMore; split <;> rfl

@[simp] theorem setExpanded_initial (b : Bool) :
    (w.setExpanded b).layout.initial = w.layout.initial := by
  unfold setExpanded; split <;> simp

@[simp] theorem load_layout (fetch : Except FeedError LaunchPage) :
    (w.load fetch).layout = w.layout := by
  unfold load; split <;> rfl

@[simp] theorem load_viewport (fetch : Except FeedError LaunchPage) :
    (w.load fetch).viewport = w.viewport := by
  unfold load; split <;> rfl

@[simp] theorem toggleShowMore_viewport : w.toggleShowMore.viewport = w.viewport := by
  unfold toggleShowMore; split <;> rfl

@[simp] theorem setExpanded_viewport (b : Bool) : (w.setExpanded b).viewport = w.viewport := by
  unfold setExpanded; split <;> simp

/-- The records change only through the state, which only loading writes. -/
theorem launches_of_state {w' : LaunchesWidget} (h : w'.state = w.state) :
    w'.launches = w.launches := by
  unfold launches; rw [h]

@[simp] theorem setExpanded_launches (b : Bool) : (w.setExpanded b).launches = w.launches :=
  w.launches_of_state (w.setExpanded_state b)

@[simp] theorem setExpanded_canShowMore (b : Bool) :
    (w.setExpanded b).canShowMore = w.canShowMore := by
  simp only [canShowMore, CardLayout.canShowMore, setExpanded_launches, setExpanded_initial]

/-- Toggling is its own undo: the control's presence does not depend on the expansion,
so a second toggle is allowed exactly when the first was. -/
theorem toggleShowMore_toggleShowMore : w.toggleShowMore.toggleShowMore = w := by
  unfold toggleShowMore
  by_cases h : w.canShowMore = true
  · have h' : ({ w with layout := w.layout.toggle } : LaunchesWidget).canShowMore = true := h
    simp only [h, if_true, h', toggle_toggle]
  · simp only [h, if_false, Bool.false_eq_true]

/-! ## The layout's width -/

/-- **The layout follows the viewport.** After any operations, a layout computed for
`width` has the initial count for the width read at the last sync that found a resize
pending, or still the one for `width` if none did. -/
theorem run_initial (fetch : Except FeedError LaunchPage) (ops : List LaunchesOp) :
    ∀ (w : LaunchesWidget) (width : Nat), w.layout.initial = Widget.initialCount width →
      (w.run fetch ops).layout.initial = Widget.initialCount (w.viewport.lastRead width ops) := by
  -- on the operations, for every widget and width: only a sync can change the width read
  induction ops with
  | nil => intro w width h; exact h
  | cons op ops ih =>
    intro w width h
    cases op with
    | load =>
      simpa [step, Viewport.lastRead] using ih (w.load fetch) width (by simpa using h)
    | toggleShowMore =>
      simpa [step, Viewport.lastRead] using ih w.toggleShowMore width (by simpa using h)
    | setExpanded b =>
      simpa [step, Viewport.lastRead] using ih (w.setExpanded b) width (by simpa using h)
    | syncViewport watch =>
      -- the sync reads the width again exactly when it finds a resize pending
      have hsync := w.syncViewport_fst watch
      rcases hr : w.viewport.resized watch with ⟨vp', pending⟩
      rw [hr] at hsync
      have hstep : (w.step fetch (.syncViewport watch)).layout.initial =
          Widget.initialCount (if pending then vp'.width watch else width) := by
        cases pending with
        | true => simp [step, hsync, CardLayout.resize]
        | false => simpa [step, hsync] using h
      have hvp : (w.step fetch (.syncViewport watch)).viewport = vp' := by simp [step, hsync]
      rw [run_cons, ih _ _ hstep, hvp]
      simp [Viewport.lastRead, hr]

/-- A widget starts with the layout for the width its viewport reads. -/
theorem create_initial (watch : ViewportWatch) (vp : Viewport) :
    (create watch vp).layout.initial = Widget.initialCount (vp.width watch) := rfl

/-! ## What a layout within the cap shows -/

/-- The cards shown are the first records, as many as the layout allows. -/
theorem visible_prefix_length :
    w.visible <+: w.launches ∧
      w.visible.length =
        min w.launches.length (if w.isExpanded then maxVisible else w.initialCount) := by
  refine ⟨List.take_prefix _ _, ?_⟩
  simp only [visible, CardLayout.visibleLen, List.length_take, isExpanded, initialCount]
  by_cases he : w.layout.expanded = true <;> simp only [he] <;> omega

variable {w}

/-- A card is hidden only while the show-more control is present. -/
theorem canShowMore_of_hidden (hcap : w.layout.initial ≤ maxVisible)
    (h : w.visible.length < w.launches.length) : w.canShowMore = true := by
  rw [(visible_prefix_length w).2] at h
  simp only [canShowMore, CardLayout.canShowMore, isExpanded, initialCount,
    decide_eq_true_eq] at h ⊢
  by_cases he : w.layout.expanded = true <;> simp [he] at h <;> omega

/-- Asking for an expansion gets it, unless there is no control to ask with and the
list is already whole. -/
theorem setExpanded_eq_or (hcap : w.layout.initial ≤ maxVisible) (b : Bool) :
    (w.setExpanded b).isExpanded = b ∨
      ((w.setExpanded b).canShowMore = false ∧
        (w.setExpanded b).visible = (w.setExpanded b).launches) := by
  unfold setExpanded
  by_cases hb : w.isExpanded = b
  · left; simp [hb]
  · have hne : (w.isExpanded != b) = true := by simpa using hb
    rw [if_pos hne]
    unfold toggleShowMore
    by_cases hc : w.canShowMore = true
    · left
      rw [if_pos hc]
      simp only [isExpanded, CardLayout.toggle] at hb ⊢
      cases b <;> simp_all
    · -- no control: every record is already shown, expanded or not
      right
      rw [if_neg hc]
      refine ⟨by simpa using hc, List.take_of_length_le ?_⟩
      simp only [canShowMore, CardLayout.canShowMore, decide_eq_true_eq, Nat.not_lt] at hc
      simp only [CardLayout.visibleLen]
      split <;> omega

end LaunchesWidget

/-- The initial count of a layout for any width is within the expanded cap. -/
theorem initialCount_le_maxVisible (width : Nat) : initialCount width ≤ maxVisible :=
  Nat.le_trans (initialCount_le width) (by decide)

/-! ## Every run -/

/-- **What every run keeps.** Whatever the feed answers, whatever the viewport reports
and in whatever order the operations come, the widget shows the first records up to its
limit, its layout is the one for the width read at creation or at the last sync that
found a resize pending, a card is hidden only while the control is present, asking for
an expansion gets it or finds the list whole with no control, toggling twice changes
nothing, and only loading changes the records. -/
theorem launches_widget_run (fetch : Except FeedError LaunchPage) (watch : ViewportWatch)
    (vp : Viewport) (ops : List LaunchesOp) :
    let w := (LaunchesWidget.create watch vp).run fetch ops
    (w.visible <+: w.launches ∧
      w.visible.length =
        min w.launches.length (if w.isExpanded then maxVisible else w.initialCount)) ∧
    w.initialCount = initialCount (vp.lastRead (vp.width watch) ops) ∧
    (w.visible.length < w.launches.length → w.canShowMore = true) ∧
    (∀ b, (w.setExpanded b).isExpanded = b ∨
      ((w.setExpanded b).canShowMore = false ∧
        (w.setExpanded b).visible = (w.setExpanded b).launches)) ∧
    w.toggleShowMore.toggleShowMore = w ∧
    w.toggleShowMore.launches = w.launches ∧
    (∀ b, (w.setExpanded b).launches = w.launches) ∧
    (∀ watch', (w.syncViewport watch').1.launches = w.launches) := by
  intro w
  have hinit : w.initialCount = initialCount (vp.lastRead (vp.width watch) ops) :=
    LaunchesWidget.run_initial fetch ops _ _ (LaunchesWidget.create_initial watch vp)
  have hcap : w.layout.initial ≤ maxVisible := by
    rw [← LaunchesWidget.initialCount, hinit]
    exact initialCount_le_maxVisible _
  refine ⟨w.visible_prefix_length, hinit, LaunchesWidget.canShowMore_of_hidden hcap,
    LaunchesWidget.setExpanded_eq_or hcap, w.toggleShowMore_toggleShowMore, ?_, fun b => ?_,
    fun watch' => ?_⟩
  all_goals exact w.launches_of_state (by simp)

/-- On a narrow viewport a loaded page of five launches shows one card, and the control
is there. -/
theorem narrow_page_hides_behind_control :
    let w := (LaunchesWidget.create { width := 375 } (.fixed 375)).run
      (.ok { results := [{}, {}, {}, {}, {}] }) [.load]
    w.visible.length < w.launches.length ∧ w.canShowMore = true :=
  ⟨by decide, (launches_widget_run _ _ _ _).2.2.1 (by decide)⟩

end SpaceTeamSite.Widget
