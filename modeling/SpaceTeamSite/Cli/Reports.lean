import SpaceTeamSite.Site.Setup

/-!
# What the commands print

Each command of the command-line tool renders its answer as text, so it can be read
and checked without a terminal:

* `keys` audits a language's texts: how many keys it defines, and which fall back to
  the primary language;
* `launches` loads the launches widget once and lists its visible cards, or the
  widget's message;
* `apod` loads the picture widget once and prints its title, date, image or message,
  and text;
* `status` prints the effective configuration and one probe of each feed.
-/

namespace SpaceTeamSite.Cli

open Site Widget

/-- The `keys` audit of a language. -/
def keysReport (t : TextTable) (lang : Language) : String :=
  let total := TextKey.all.length
  if lang.isPrimary then
    lang.nativeName ++ " is the primary language; all " ++ toString total ++ " keys are defined.\n"
  else
    let missing := t.missing lang
    lang.nativeName ++ ": " ++ toString (total - missing.length) ++ "/" ++ toString total ++
      " keys defined, " ++ toString missing.length ++ " fall back to " ++
      Language.primary.nativeName ++ "\n" ++
      String.join (missing.map fun k => "  " ++ k.wire ++ "\n")

/-- One card as lines of text. -/
def cardLines (text : Localizer) (card : LaunchCard) : String :=
  let line (key : TextKey) (value : String) := "  " ++ text.text key ++ ": " ++ value ++ "\n"
  "\n" ++ card.name ++ "\n" ++
  line .launchesOperatorLabel card.provider ++ line .launchesLocationLabel card.location ++
  line .launchesTimeLabel card.time ++
  (match card.mission with
    | some m => line .launchesMissionLabel m
    | none => "") ++
  (match card.status with
    | some s => "  [" ++ s ++ "]\n"
    | none => "")

/-- The `launches` listing for a language and viewport width, expanded with `all`. -/
def launchesReport (s : Setup) (lang : Language) (width : Nat) (all : Bool) : String :=
  let text := s.localizer lang
  let w := ((s.launchesWidget width).load s.feeds.launches).setExpanded all
  let view := LaunchesView.resolve w text s.offset
  let head := text.text .launchesListTitle ++ "\n"
  match view.message with
  | some m => head ++ m ++ "\n"
  | none =>
    head ++ String.join (view.cards.map (cardLines text)) ++
    (if view.canShowMore && !view.expanded then
      "\n" ++ toString view.cards.length ++ "/" ++ toString view.total ++ " (--all: " ++
        text.text .launchesShowMore ++ ")\n"
     else "")

/-- The line printed in place of the picture: its address, else the view's message. -/
def pictureMediaLine (view : PictureView) : String :=
  match view.imageUrl, view.message with
  | some url, _ => url ++ "\n"
  | none, some m => m ++ "\n"
  | none, none => ""

/-- The `apod` printout for a language. -/
def pictureReport (s : Setup) (lang : Language) : String :=
  let text := s.localizer lang
  let view := PictureView.resolve s.loadPicture text
  text.text .apodTitle ++ " (" ++ text.text .apodSource ++ ")\n" ++
  (match view.title with
    | some t => t ++ "\n"
    | none => "") ++
  (match view.date with
    | some d => text.text .apodDateLabel ++ ": " ++ d ++ "\n"
    | none => "") ++
  pictureMediaLine view ++
  (match view.explanation with
    | some e => "\n" ++ e ++ "\n"
    | none => "")

/-- The probe line of the launches feed. -/
def launchesProbe : LaunchesState → String
  | .success ls => "ok (" ++ toString ls.length ++ " upcoming)"
  | .empty => "ok (none scheduled)"
  | .error => "unavailable"
  | .loading => "pending"

/-- The probe line of the picture feed. -/
def pictureProbe : PictureState → String
  | .success _ => "ok (image)"
  | .noImage _ => "ok (not an image today)"
  | .error => "unavailable"
  | .loading => "pending"

/-- The `status` printout: the configuration read from `configPath`, then the probes. -/
def statusReport (configPath : String) (c : Config) (s : Setup) : String :=
  let launches := (s.launchesWidget s.defaultWidth).load s.feeds.launches
  "TAYF site status\n\nConfig: " ++ configPath ++ "\nSite: " ++ c.site.name ++
  "\nDefault language: " ++ c.site.defaultLanguage.code ++
  "\nDefault viewport width: " ++ toString c.site.defaultViewportWidth ++
  "\nListen: http://" ++ c.server.addr ++ "\nDisplay offset: " ++ s.offset.display ++ "\n" ++
  (if c.site.textOverrides.isEmpty then "" else "Text overrides: " ++ c.site.textOverrides ++ "\n") ++
  "\n  " ++ s.feeds.launchesName ++ ": " ++ launchesProbe launches.state ++
  "\n  " ++ s.feeds.pictureName ++ ": " ++ pictureProbe s.loadPicture ++ "\n"

end SpaceTeamSite.Cli
