import SpaceTeamSite.Site.Setup
import SpaceTeamSite.Json.Value

/-!
# The JSON form of the views

The JSON interface answers with the same views the page draws, each field under its
snake-case name and every absent value as `null`.
-/

namespace SpaceTeamSite.Site

open Json (Value)

/-- A launch card as JSON. -/
def LaunchCard.toValue (c : LaunchCard) : Value :=
  .obj [("id", .str c.id), ("name", .str c.name), ("provider", .str c.provider),
    ("location", .str c.location), ("time", .str c.time), ("mission", .optStr c.mission),
    ("status", .optStr c.status), ("image_url", .optStr c.imageUrl)]

/-- The members of a launches view. -/
def LaunchesView.members (v : LaunchesView) : List (String × Value) :=
  [("state", .str v.state), ("message", .optStr v.message),
   ("cards", .array (v.cards.map LaunchCard.toValue)), ("initial", .int v.initial),
   ("total", .int v.total), ("can_show_more", .bool v.canShowMore), ("expanded", .bool v.expanded)]

/-- The members of a picture view. -/
def PictureView.members (v : PictureView) : List (String × Value) :=
  [("state", .str v.state), ("title", .optStr v.title), ("date", .optStr v.date),
   ("explanation", .optStr v.explanation), ("image_url", .optStr v.imageUrl),
   ("message", .optStr v.message)]

/-- A launches view as JSON. -/
def LaunchesView.toValue (v : LaunchesView) : Value := .obj v.members

/-- A picture view as JSON. -/
def PictureView.toValue (v : PictureView) : Value := .obj v.members

/-- The launches interface's answer: the language and width, then the view. -/
def launchesResponse (p : PageParams) (v : LaunchesView) : Value :=
  .obj ([("lang", .str p.lang.code), ("width", .int p.width)] ++ v.members)

/-- The picture interface's answer: the language, then the view. -/
def pictureResponse (p : PageParams) (v : PictureView) : Value :=
  .obj ([("lang", .str p.lang.code)] ++ v.members)

end SpaceTeamSite.Site
