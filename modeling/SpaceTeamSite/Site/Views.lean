import SpaceTeamSite.Widget.Launches
import SpaceTeamSite.Widget.Picture
import SpaceTeamSite.I18n.TextTable
import SpaceTeamSite.Format.Dates

/-!
# What a reader sees of the live widgets

The views resolve every placeholder and date once, for a language and an offset, so
that the page, the JSON interface and the command line agree on them.

* A launch card falls back to the localized "unknown" texts for a missing name,
  operator or location (to nothing if that text is empty too), shows the time in the
  site's offset or "date to be determined", and writes the status as
  `abbreviation — name` when both are known.
* The launches view adds the list's state, the message for an empty or failed list,
  and the layout numbers.
* The picture view keeps the record's title, date and text when there is a record,
  and an image only on success; in every other state it carries a message.
-/

namespace SpaceTeamSite.Site

open Widget

/-- One launch with every placeholder resolved. -/
structure LaunchCard where
  id : String
  name : String
  provider : String
  location : String
  time : String
  /-- No mission line when absent. -/
  mission : Option String
  /-- No status badge when absent. -/
  status : Option String
  imageUrl : Option String
  deriving DecidableEq, Repr

/-- A value, or the localized text of `key` when the value is absent, or nothing. -/
def orText (text : Localizer) (value : Option String) (key : TextKey) : String :=
  (firstPresent [value, some (text.text key)]).getD ""

/-- The card of a launch, read in `text`'s language, times in `offset`. -/
def LaunchCard.resolve (l : Launch) (text : Localizer) (offset : Calendar.Offset) : LaunchCard where
  id := l.id
  name := orText text l.displayName .launchesUnknownName
  provider := orText text l.providerName .launchesUnknownOperator
  location := orText text l.locationName .launchesUnknownLocation
  time := match l.timestamp with
    | some raw => Format.launchTime raw text.lang offset
    | none => text.text .launchesNoDate
  mission := l.missionName
  status := l.statusName.map fun name => match l.statusAbbrev with
    | some abbreviation => abbreviation ++ " — " ++ name
    | none => name
  imageUrl := l.imageUrl

/-- The launches widget as a reader sees it. -/
structure LaunchesView where
  state : String
  /-- The status line beside the list title; absent while loading and on success. -/
  message : Option String
  cards : List LaunchCard
  /-- Cards before "show more"; placeholders while loading. -/
  initial : Nat
  total : Nat
  canShowMore : Bool
  expanded : Bool

/-- The view of a launches widget. -/
def LaunchesView.resolve (w : LaunchesWidget) (text : Localizer) (offset : Calendar.Offset) :
    LaunchesView where
  state := w.state.tag
  message := match w.state with
    | .empty => some (text.text .launchesEmpty)
    | .error => some (text.text .launchesError)
    | _ => none
  cards := w.visible.map fun l => LaunchCard.resolve l text offset
  initial := w.initialCount
  total := w.launches.length
  canShowMore := w.canShowMore
  expanded := w.isExpanded

/-- The picture widget as a reader sees it. -/
structure PictureView where
  state : String
  title : Option String
  /-- The long localized date. -/
  date : Option String
  explanation : Option String
  /-- Only when there is an image to show. -/
  imageUrl : Option String
  /-- Shown in place of the image. -/
  message : Option String

/-- The view of a picture widget's state. -/
def PictureView.resolve (s : PictureState) (text : Localizer) : PictureView where
  state := s.tag
  title := s.record?.bind fun r => firstPresent [r.title]
  date := (s.record?.bind fun r => firstPresent [some r.date]).map
    fun raw => Format.pictureDate raw text.lang
  explanation := s.record?.bind fun r => firstPresent [some r.explanation]
  imageUrl := match s with
    | .success r => r.imageUrl
    | _ => none
  message := match s with
    | .loading => some (text.text .apodLoading)
    | .noImage _ => some (text.text .apodNoImage)
    | .error => some (text.text .apodError)
    | .success _ => none

/-- A card shows exactly one entry per visible record. -/
theorem resolve_cards_length (w : LaunchesWidget) (text : Localizer) (offset : Calendar.Offset) :
    (LaunchesView.resolve w text offset).cards.length = w.visible.length := by
  simp [LaunchesView.resolve]

end SpaceTeamSite.Site
