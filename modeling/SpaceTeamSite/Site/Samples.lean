import SpaceTeamSite.Record.Launch
import SpaceTeamSite.Record.Picture

/-!
# Sample records

Fully populated records for demonstrations and tests: numbered Falcon 9 launches
from Space Launch Complex 40, all at the same window, and an Orion Nebula picture
of a chosen media type.
-/

namespace SpaceTeamSite.Samples

/-- The `i`-th sample launch, with every field the cards show. -/
def launch (i : Nat) : Launch where
  id := "launch-" ++ toString i
  name := some ("Falcon 9 Block 5 | Starlink Group " ++ toString i)
  windowStart := some "2026-10-20T11:00:00Z"
  provider := some ⟨some "SpaceX"⟩
  pad := some ⟨some "Space Launch Complex 40", none⟩
  mission := some ⟨some ("Starlink Group " ++ toString i)⟩
  status := some ⟨some "Go for Launch", some "Go"⟩
  image := some ("https://example.invalid/f9-" ++ toString i ++ ".jpg")

/-- The first `n` sample launches. -/
def launches (n : Nat) : List Launch := (List.range n).map launch

/-- The sample picture with the given media type. -/
def picture (mediaType : String) : PictureRecord where
  date := "2026-10-16"
  explanation := "The Orion Nebula in visible light."
  mediaType := mediaType
  url := some "https://example.invalid/orion.jpg"
  title := some "Orion Nebula"

theorem launches_length (n : Nat) : (launches n).length = n := by simp [launches]

end SpaceTeamSite.Samples
