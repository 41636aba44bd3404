import SpaceTeamSite.Json.Decode
import SpaceTeamSite.I18n.Fallback

/-!
# Picture records

The astronomy picture of the day as its feed describes it. Date, explanation and
media type default to the empty text; the links and the title may be absent. A
record is an image when its media type is exactly `image`, and its image link is
its `url` when that is present and not empty.
-/

namespace SpaceTeamSite

open Json

/-- The astronomy picture of the day. -/
structure PictureRecord where
  date : String := ""
  explanation : String := ""
  mediaType : String := ""
  url : Option String := none
  hdurl : Option String := none
  title : Option String := none
  thumbnailUrl : Option String := none
  deriving DecidableEq, Repr, Inhabited

namespace PictureRecord

/-- The media type of a still image. -/
def imageMediaType : String := "image"

/-- Whether the record is a still image. -/
def isImage (r : PictureRecord) : Bool := r.mediaType == imageMediaType

/-- The image link, if present and not empty. -/
def imageUrl (r : PictureRecord) : Option String := firstPresent [r.url]

/-- The image link is the `url`, when that is there and not empty. -/
theorem imageUrl_eq_some_iff {r : PictureRecord} {u : String} :
    r.imageUrl = some u ↔ r.url = some u ∧ u ≠ "" :=
  firstPresent_singleton_eq_some

/-- A record's image link, when it has one, is its `url`. -/
theorem imageUrl_eq_url {r : PictureRecord} (h : r.imageUrl.isSome = true) :
    r.imageUrl = r.url := by
  obtain ⟨u, hu⟩ := Option.isSome_iff_exists.mp h
  rw [hu, (imageUrl_eq_some_iff.mp hu).1]

/-- Reads a record. -/
def read (v : Value) : Option PictureRecord := do
  let [date, explanation, mediaType, url, hdurl, title, thumbnailUrl] ←
    fieldsOf ["date", "explanation", "media_type", "url", "hdurl", "title", "thumbnail_url"] v
    | none
  some {
    date := ← textField date
    explanation := ← textField explanation
    mediaType := ← textField mediaType
    url := ← optionalField Value.text? url
    hdurl := ← optionalField Value.text? hdurl
    title := ← optionalField Value.text? title
    thumbnailUrl := ← optionalField Value.text? thumbnailUrl }

/-- Reads a record from JSON text. -/
def parse? (s : String) : Option PictureRecord := (Value.parse? s).bind read

/-- The record as JSON, every field present. -/
def toValue (r : PictureRecord) : Value :=
  .obj [("date", .str r.date), ("explanation", .str r.explanation), ("media_type", .str r.mediaType),
    ("url", .optStr r.url), ("hdurl", .optStr r.hdurl), ("title", .optStr r.title),
    ("thumbnail_url", .optStr r.thumbnailUrl)]

end PictureRecord

end SpaceTeamSite
