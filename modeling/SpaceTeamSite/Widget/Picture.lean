import SpaceTeamSite.Record.Picture
import SpaceTeamSite.Error

/-!
# The picture-of-the-day widget

Like the launches widget, it owns one request and moves once from `loading` to a final
state. A record is a `success` only when it is an image and has a URL to show;
otherwise the record is kept as `noImage`, so its title, date and text still show.
-/

namespace SpaceTeamSite.Widget

/-- The fetch state of the picture widget. -/
inductive PictureState where
  | loading
  | success (record : PictureRecord)
  | noImage (record : PictureRecord)
  | error

namespace PictureState

/-- The state's name. -/
def tag : PictureState → String
  | .loading => "loading"
  | .success _ => "success"
  | .noImage _ => "no_image"
  | .error => "error"

/-- Whether the widget still waits for its request. -/
def isLoading : PictureState → Bool
  | .loading => true
  | _ => false

/-- The fetched record, in the states that have one. -/
def record? : PictureState → Option PictureRecord
  | .success r => some r
  | .noImage r => some r
  | _ => none

/-- The final state a feed's answer leads to. -/
def ofFetch : Except FeedError PictureRecord → PictureState
  | .ok r => if r.isImage && r.imageUrl.isSome then .success r else .noImage r
  | .error _ => .error

/-- Runs the single fetch with the feed's answer; a no-op once the state is final. -/
def load (s : PictureState) (fetch : Except FeedError PictureRecord) : PictureState :=
  if s.isLoading then .ofFetch fetch else s

end PictureState

theorem ofFetch_ne_loading (fetch : Except FeedError PictureRecord) :
    PictureState.ofFetch fetch ≠ .loading := by
  cases fetch with
  | error e => simp [PictureState.ofFetch]
  | ok r => simp only [PictureState.ofFetch]; split <;> simp

/-- After a load the widget no longer waits. -/
theorem isLoading_load (s : PictureState) (fetch : Except FeedError PictureRecord) :
    (s.load fetch).isLoading = false := by
  unfold PictureState.load
  split
  · cases h : PictureState.ofFetch fetch with
    | loading => exact absurd h (ofFetch_ne_loading fetch)
    | _ => rfl
  · rename_i h; simpa using h

/-- A success always has an image to show. -/
theorem ofFetch_success (fetch : Except FeedError PictureRecord) (r : PictureRecord)
    (h : PictureState.ofFetch fetch = .success r) : r.isImage = true ∧ r.imageUrl.isSome = true := by
  cases fetch with
  | error => simp [PictureState.ofFetch] at h
  | ok r' =>
    simp only [PictureState.ofFetch] at h
    split at h
    · rename_i hc; cases h; simpa using hc
    · cases h

end SpaceTeamSite.Widget
