/-!
# Viewports and resize notifications

A launches widget reads its width from a viewport. A fixed viewport has one width and
never reports a resize. A watched viewport listens to a `ViewportWatch`, the page's
source of resize notifications: it always reads the latest published width, and
reports a resize once for every publication it has not yet taken note of, even one
that republished the same width.

Publications are counted by the watch's `version`; a listener remembers the version it
last took note of, so "a resize is pending" is "the versions differ".
-/

namespace SpaceTeamSite.Widget

/-- The page's source of resize notifications. -/
structure ViewportWatch where
  /-- The latest published width. -/
  width : Nat
  /-- How many times a width was published. -/
  version : Nat := 0
  /-- How many listeners are attached. -/
  listeners : Nat := 0
  deriving DecidableEq, Repr

/-- Where a widget reads its width. -/
inductive Viewport where
  | fixed (width : Nat)
  /-- A listener of the watch that has taken note of publication `seen`. -/
  | watched (seen : Nat)
  deriving DecidableEq, Repr

namespace ViewportWatch

/-- Publishes a width to every listener. -/
def publish (w : ViewportWatch) (width : Nat) : ViewportWatch :=
  { w with width, version := w.version + 1 }

/-- Attaches a listener, which starts with nothing pending. -/
def subscribe (w : ViewportWatch) : ViewportWatch × Viewport :=
  ({ w with listeners := w.listeners + 1 }, .watched w.version)

/-- Detaches a listener. -/
def unsubscribe (w : ViewportWatch) : ViewportWatch :=
  { w with listeners := w.listeners - 1 }

end ViewportWatch

namespace Viewport

/-- The width a viewport reads; reading it takes no note of a resize. -/
def width (watch : ViewportWatch) : Viewport → Nat
  | .fixed w => w
  | .watched _ => watch.width

/-- Whether a resize is pending, and the viewport once it has taken note of it. -/
def resized (watch : ViewportWatch) : Viewport → Viewport × Bool
  | .fixed w => (.fixed w, false)
  | .watched seen => (.watched watch.version, seen != watch.version)

end Viewport

/-- A resize is reported once: asking again right away finds nothing pending. -/
theorem resized_twice (watch : ViewportWatch) (v : Viewport) :
    ((v.resized watch).1.resized watch).2 = false := by
  cases v <;> simp [Viewport.resized]

/-- A listener that subscribed and then saw a publication reports it. -/
theorem resized_after_publish (watch : ViewportWatch) (width : Nat) :
    ((watch.subscribe.2).resized (watch.publish width)).2 = true := by
  simp [ViewportWatch.subscribe, ViewportWatch.publish, Viewport.resized]

end SpaceTeamSite.Widget
