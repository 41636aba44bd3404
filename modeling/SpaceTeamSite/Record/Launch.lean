import SpaceTeamSite.Json.Decode
import SpaceTeamSite.I18n.Fallback

/-!
# Launch records

A launch as the upcoming-launches feed describes it. Only the identifier is always
there; every other field may be absent, and the nested ones may be partly filled.
The accessors pick what the site shows, each through `firstPresent`, so an empty
text counts as absent:

* the location is the pad's name, else the name of the pad's location;
* the time stamp is the window start, else the no-earlier-than time, else the
  time of the last update;
* the image is the launch's own image, else the rocket configuration's image.

Records are read with `Json.fieldsOf` (see `Json/Decode`) and written back with
every field present, absent ones as `null`.
-/

namespace SpaceTeamSite

open Json

/-- Something with an optional name. -/
structure Named where
  name : Option String := none
  deriving DecidableEq, Repr, Inhabited

/-- A launch pad and where it is. -/
structure Pad where
  name : Option String := none
  location : Option Named := none
  deriving DecidableEq, Repr, Inhabited

/-- The launch's status, with its abbreviation. -/
structure LaunchStatus where
  name : Option String := none
  abbreviation : Option String := none
  deriving DecidableEq, Repr, Inhabited

/-- The configuration of a rocket. -/
structure RocketConfiguration where
  imageUrl : Option String := none
  deriving DecidableEq, Repr, Inhabited

/-- The rocket of a launch. -/
structure Rocket where
  configuration : Option RocketConfiguration := none
  deriving DecidableEq, Repr, Inhabited

/-- An upcoming launch. -/
structure Launch where
  id : String := ""
  name : Option String := none
  windowStart : Option String := none
  net : Option String := none
  lastUpdated : Option String := none
  provider : Option Named := none
  pad : Option Pad := none
  mission : Option Named := none
  status : Option LaunchStatus := none
  image : Option String := none
  rocket : Option Rocket := none
  deriving DecidableEq, Repr, Inhabited

/-- A page of the upcoming-launches feed. -/
structure LaunchPage where
  results : List Launch := []
  deriving DecidableEq, Repr, Inhabited

namespace Launch

/-- The name of a named thing, if there is one. -/
def nameOf : Option Named → Option String
  | some n => n.name
  | none => none

/-- The name shown for the launch. -/
def displayName (l : Launch) : Option String := firstPresent [l.name]

/-- The launch service provider's name. -/
def providerName (l : Launch) : Option String := firstPresent [nameOf l.provider]

/-- The pad's name, else the name of the pad's location. -/
def locationName (l : Launch) : Option String :=
  firstPresent [l.pad.bind (·.name), l.pad.bind (fun p => nameOf p.location)]

/-- The window start, else the no-earlier-than time, else the last update. -/
def timestamp (l : Launch) : Option String := firstPresent [l.windowStart, l.net, l.lastUpdated]

/-- The mission's name. -/
def missionName (l : Launch) : Option String := firstPresent [nameOf l.mission]

/-- The status's name. -/
def statusName (l : Launch) : Option String := firstPresent [l.status.bind (·.name)]

/-- The status's abbreviation. -/
def statusAbbrev (l : Launch) : Option String := firstPresent [l.status.bind (·.abbreviation)]

/-- The launch's image, else the rocket configuration's image. -/
def imageUrl (l : Launch) : Option String :=
  firstPresent [l.image, (l.rocket.bind (·.configuration)).bind (·.imageUrl)]

end Launch

/-! ## Reading -/

/-- Reads a named thing. -/
def Named.read (v : Value) : Option Named := do
  let [name] ← fieldsOf ["name"] v | none
  some ⟨← optionalField Value.text? name⟩

/-- Reads a pad. -/
def Pad.read (v : Value) : Option Pad := do
  let [name, location] ← fieldsOf ["name", "location"] v | none
  some ⟨← optionalField Value.text? name, ← optionalField Named.read location⟩

/-- Reads a status. -/
def LaunchStatus.read (v : Value) : Option LaunchStatus := do
  let [name, abbreviation] ← fieldsOf ["name", "abbrev"] v | none
  some ⟨← optionalField Value.text? name, ← optionalField Value.text? abbreviation⟩

/-- Reads a rocket configuration. -/
def RocketConfiguration.read (v : Value) : Option RocketConfiguration := do
  let [imageUrl] ← fieldsOf ["image_url"] v | none
  some ⟨← optionalField Value.text? imageUrl⟩

/-- Reads a rocket. -/
def Rocket.read (v : Value) : Option Rocket := do
  let [configuration] ← fieldsOf ["configuration"] v | none
  some ⟨← optionalField RocketConfiguration.read configuration⟩

/-- The wire names of a launch's fields, in declaration order. -/
def Launch.fieldNames : List String :=
  ["id", "name", "window_start", "net", "last_updated", "launch_service_provider", "pad",
    "mission", "status", "image", "rocket"]

/-- Reads a launch. -/
def Launch.read (v : Value) : Option Launch := do
  let [id, name, windowStart, net, lastUpdated, provider, pad, mission, status, image, rocket] ←
    fieldsOf Launch.fieldNames v | none
  some {
    id := ← textField id
    name := ← optionalField Value.text? name
    windowStart := ← optionalField Value.text? windowStart
    net := ← optionalField Value.text? net
    lastUpdated := ← optionalField Value.text? lastUpdated
    provider := ← optionalField Named.read provider
    pad := ← optionalField Pad.read pad
    mission := ← optionalField Named.read mission
    status := ← optionalField LaunchStatus.read status
    image := ← optionalField Value.text? image
    rocket := ← optionalField Rocket.read rocket }

/-- Reads a page of launches. -/
def LaunchPage.read (v : Value) : Option LaunchPage := do
  let [results] ← fieldsOf ["results"] v | none
  some ⟨← listField Launch.read results⟩

/-- Reads a launch from JSON text. -/
def Launch.parse? (s : String) : Option Launch := (Value.parse? s).bind Launch.read

/-- Reads a page of launches from JSON text. -/
def LaunchPage.parse? (s : String) : Option LaunchPage := (Value.parse? s).bind LaunchPage.read

/-! ## Writing -/

/-- A named thing as JSON. -/
def Named.toValue (n : Named) : Value := .obj [("name", .optStr n.name)]

/-- An optional record as JSON, `null` when absent. -/
def optValue {α : Type} (f : α → Value) : Option α → Value
  | some a => f a
  | none => .null

/-- A launch as JSON, every field present. -/
def Launch.toValue (l : Launch) : Value :=
  .obj [("id", .str l.id), ("name", .optStr l.name), ("window_start", .optStr l.windowStart),
    ("net", .optStr l.net), ("last_updated", .optStr l.lastUpdated),
    ("launch_service_provider", optValue Named.toValue l.provider),
    ("pad", optValue (fun p => .obj [("name", .optStr p.name),
      ("location", optValue Named.toValue p.location)]) l.pad),
    ("mission", optValue Named.toValue l.mission),
    ("status", optValue (fun s => .obj [("name", .optStr s.name), ("abbrev", .optStr s.abbreviation)])
      l.status),
    ("image", .optStr l.image),
    ("rocket", optValue (fun r => .obj [("configuration",
      optValue (fun c => .obj [("image_url", .optStr c.imageUrl)]) r.configuration)]) l.rocket)]

/-- A page of launches as JSON. -/
def LaunchPage.toValue (p : LaunchPage) : Value := .obj [("results", .array (p.results.map Launch.toValue))]

end SpaceTeamSite
