import SpaceTeamSite.Log.Filter
import SpaceTeamSite.Site.Setup

/-!
# What the tool logs

The tool logs a few events while it runs, each under the target of the part that logs
it:

* the texts, when an override file loads, say how many overrides it holds: one per
  language and key, however often the file names them;
* a feed request, before it goes out, names its feed and address;
* a widget says what its feed answered: a count of launches, no launches, a picture
  without a still image, or why the request failed;
* `serve` says which site it serves, then where it listens or why it cannot.

A message is written as it is formed, so a text with a line break in it, such as a path
or an address from the configuration, goes on over more than one line.
-/

namespace SpaceTeamSite.Log

/-- The target of the texts. -/
def textsTarget : String := "tayf_core::i18n"

/-- The target of the tool itself. -/
def toolTarget : String := "tayf"

/-- The target of the server. -/
def serverTarget : String := "tayf::api"

/-- The target of feed requests. -/
def requestTarget : String := "tayf_feeds::http"

/-- The target of the widgets. -/
def widgetTarget : String := "tayf_feeds::widget"

/-- A text written quoted, as a debugging view shows it: backslash, quote and control
characters escaped. -/
def quoted (s : String) : String :=
  let escape : Char → String
    | '\\' => "\\\\"
    | '"' => "\\\""
    | '\n' => "\\n"
    | '\r' => "\\r"
    | '\t' => "\\t"
    | '\x00' => "\\0"
    | c =>
      if c.toNat < 0x20 || c.toNat == 0x7f then
        "\\u\x7b" ++ String.ofList (Nat.toDigits 16 c.toNat) ++ "\x7d"
      else c.toString
  "\"" ++ String.join (s.toList.map escape) ++ "\""

/-- The number of overrides a table holds: one per language and key. -/
def overrideCount (t : TextTable) : Nat :=
  (t.overrides.map fun o => (o.lang, o.key)).eraseDups.length

/-- The event of a loaded override file. -/
def overridesLoaded (t : TextTable) (path : String) : Event :=
  ⟨.info, textsTarget, "loaded " ++ toString (overrideCount t) ++ " text overrides from " ++ path⟩

/-- The events of reading a site's texts: one when they come from a file. -/
def textsRead (s : SiteConfig) (t : TextTable) : List Event :=
  if s.textOverrides.isEmpty then [] else [overridesLoaded t s.textOverrides]

/-- The event of a feed request about to go out. -/
def requested (source url : String) : Event :=
  ⟨.debug, requestTarget, source ++ ": GET " ++ url⟩

/-- The event of a failed feed request. -/
def fetchFailed (name : String) (e : FeedError) : Event :=
  ⟨.warn, widgetTarget, name ++ ": fetch failed: " ++ (SiteError.feed e).message⟩

/-- The event of the launches feed's answer. -/
def launchesAnswered (name : String) : Except FeedError LaunchPage → Event
  | .ok ⟨[]⟩ => ⟨.debug, widgetTarget, name ++ ": no upcoming launches"⟩
  | .ok page =>
    ⟨.debug, widgetTarget, name ++ ": " ++ toString page.results.length ++ " upcoming launches"⟩
  | .error e => fetchFailed name e

/-- The events of the picture feed's answer: none for a still image. -/
def pictureAnswered (name : String) : Except FeedError PictureRecord → List Event
  | .ok r =>
    if r.isImage && r.imageUrl.isSome then []
    else [⟨.debug, widgetTarget, name ++ ": media type " ++ quoted r.mediaType ++ " has no still image"⟩]
  | .error e => [fetchFailed name e]

/-- The events of loading the launches widget: the request, then the answer. -/
def launchesLoaded (c : Config) (feeds : FeedAnswers) : List Event :=
  [requested launchesSource c.feeds.launchesUrl, launchesAnswered feeds.launchesName feeds.launches]

/-- The events of loading the picture widget: the request, then the answer. -/
def pictureLoaded (c : Config) (feeds : FeedAnswers) : List Event :=
  requested pictureSource c.feeds.apodUrl :: pictureAnswered feeds.pictureName feeds.picture

/-- The events of loading both widgets at once: both requests go out before either
answer comes back. -/
def bothLoaded (c : Config) (feeds : FeedAnswers) : List Event :=
  [requested launchesSource c.feeds.launchesUrl, requested pictureSource c.feeds.apodUrl,
    launchesAnswered feeds.launchesName feeds.launches] ++
    pictureAnswered feeds.pictureName feeds.picture

/-- The event of `serve` starting: the site, its language and its launches feed. -/
def serving (c : Config) : Event :=
  ⟨.info, toolTarget, c.site.name ++ ": default language " ++ c.site.defaultLanguage.code ++
    ", launches feed " ++ c.feeds.launchesUrl⟩

/-- The event of the server listening. -/
def listening (addr : String) : Event :=
  ⟨.info, serverTarget, "serving on http://" ++ addr⟩

/-- The event of the server failing to take its address. -/
def bindFailed (addr : String) (e : OsError) : Event :=
  ⟨.error, serverTarget, "server failed to bind to " ++ addr ++ ": " ++ e.describe⟩

theorem textsRead_builtin (s : SiteConfig) (t : TextTable) (h : s.textOverrides = "") :
    textsRead s t = [] := by
  simp [textsRead, h]

end SpaceTeamSite.Log
