/-!
# How many launch cards to show

The launches list shows a number of cards that depends on the viewport: three side by
side from `wideMinWidth` pixels, two from `mediumMinWidth`, one below. A reader may
expand the list to at most `maxVisible` cards and collapse it again; a resize changes
the initial count but keeps the reader's choice. Nothing here fetches: the layout is a
view over records already in hand.
-/

namespace SpaceTeamSite.Widget

/-- The width from which three cards fit side by side. -/
def wideMinWidth : Nat := 1280

/-- The width from which two cards fit side by side. -/
def mediumMinWidth : Nat := 640

/-- The most cards an expanded list shows. -/
def maxVisible : Nat := 9

/-- Cards shown before "show more", by viewport width. -/
def initialCount (width : Nat) : Nat :=
  if width ≥ wideMinWidth then 3 else if width ≥ mediumMinWidth then 2 else 1

/-- The card layout: the initial count for the current width, and whether the reader
expanded the list. -/
structure CardLayout where
  initial : Nat
  expanded : Bool := false
  deriving DecidableEq, Repr

namespace CardLayout

/-- The collapsed layout for a width. -/
def forWidth (width : Nat) : CardLayout := ⟨initialCount width, false⟩

/-- The layout after a resize, and whether the initial count changed. -/
def resize (l : CardLayout) (width : Nat) : CardLayout × Bool :=
  let initial := initialCount width
  ({ l with initial }, initial != l.initial)

/-- How many of `total` records to show. -/
def visibleLen (l : CardLayout) (total : Nat) : Nat :=
  min total (if l.expanded then maxVisible else l.initial)

/-- Whether the show-more control is present. -/
def canShowMore (l : CardLayout) (total : Nat) : Bool := total > l.initial

/-- Expands a collapsed list and collapses an expanded one. -/
def toggle (l : CardLayout) : CardLayout := { l with expanded := !l.expanded }

end CardLayout

theorem initialCount_pos (width : Nat) : 0 < initialCount width := by
  unfold initialCount; split
  · omega
  · split <;> omega

theorem initialCount_le (width : Nat) : initialCount width ≤ 3 := by
  unfold initialCount; split
  · omega
  · split <;> omega

/-- Widening the viewport never shows fewer cards at first. -/
theorem initialCount_mono {w w' : Nat} (h : w ≤ w') : initialCount w ≤ initialCount w' := by
  unfold initialCount wideMinWidth mediumMinWidth
  split <;> split <;> (try split) <;> (try split) <;> omega

/-- A list never shows more cards than it has, nor more than `maxVisible`. -/
theorem visibleLen_le (l : CardLayout) (total : Nat) (h : l.initial ≤ maxVisible) :
    l.visibleLen total ≤ total ∧ l.visibleLen total ≤ maxVisible := by
  unfold CardLayout.visibleLen
  have hmin (a b : Nat) (hb : b ≤ maxVisible) : min a b ≤ a ∧ min a b ≤ maxVisible :=
    ⟨Nat.min_le_left a b, Nat.le_trans (Nat.min_le_right a b) hb⟩
  split
  · exact hmin total maxVisible (Nat.le_refl maxVisible)
  · exact hmin total l.initial h

/-- Toggling twice changes nothing. -/
@[simp] theorem toggle_toggle (l : CardLayout) : l.toggle.toggle = l := by
  simp [CardLayout.toggle]

/-- A resize keeps the reader's choice to expand. -/
@[simp] theorem resize_expanded (l : CardLayout) (width : Nat) :
    (l.resize width).1.expanded = l.expanded := rfl

end SpaceTeamSite.Widget
