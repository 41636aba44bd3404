import SpaceTeamSite.Site.Page
import SpaceTeamSite.Config.Load
import SpaceTeamSite.Feed.Answers

/-!
# A site ready to serve page loads

A `Setup` is what every page load shares: the site's name and texts, its defaults, the
offset times are shown in, and the feeds. Every page load is fresh: it makes both
widgets anew, loads them, applies the reader's expansion and draws the page, so
nothing carries over from one load to the next.
-/

namespace SpaceTeamSite.Site

open Widget

/-- Everything a page load needs besides the request's parameters. -/
structure Setup where
  name : String
  text : TextTable
  defaultLanguage : Language
  defaultWidth : Nat
  offset : Calendar.Offset
  feeds : FeedAnswers

namespace Setup

/-- The site of a configuration over the given feeds; fails when the configured text
overrides cannot be read. -/
def build (config : Config) (files : Files) (feeds : FeedAnswers) : Except SiteError Setup := do
  let text ← config.site.textTable files
  pure {
    name := config.site.name
    text
    defaultLanguage := config.site.defaultLanguage
    defaultWidth := config.site.defaultViewportWidth
    offset := config.feeds.displayOffset
    feeds }

/-- The parameters of a request from its raw query values. -/
def params (s : Setup) (lang width more : Option String) : PageParams :=
  ParamDefaults.params ⟨s.defaultLanguage, s.defaultWidth⟩ lang width more

/-- The site's texts read in a language. -/
def localizer (s : Setup) (lang : Language) : Localizer := s.text.localizer lang

/-- A fresh launches widget for a viewport of fixed width. -/
def launchesWidget (_s : Setup) (width : Nat) : LaunchesWidget :=
  LaunchesWidget.create { width } (.fixed width)

/-- The launches widget of a page load: made, loaded, and expanded as asked. -/
def loadLaunches (s : Setup) (p : PageParams) : LaunchesWidget :=
  ((s.launchesWidget p.width).load s.feeds.launches).setExpanded p.expanded

/-- The picture widget of a page load, loaded. -/
def loadPicture (s : Setup) : PictureState := PictureState.loading.load s.feeds.picture

/-- The drawing context of a page load. -/
def context (s : Setup) (p : PageParams) : PageContext := ⟨s.localizer p.lang, p, s.name⟩

/-- One page load, drawn. -/
def render (s : Setup) (p : PageParams) : String :=
  let text := s.localizer p.lang
  renderPage (s.context p) (LaunchesView.resolve (s.loadLaunches p) text s.offset)
    (PictureView.resolve s.loadPicture text)

/-- A page drawn from widgets that never loaded: placeholders everywhere. -/
def renderUnloaded (s : Setup) (p : PageParams) : String :=
  let text := s.localizer p.lang
  renderPage (s.context p) (LaunchesView.resolve ((s.launchesWidget p.width).setExpanded p.expanded) text s.offset)
    (PictureView.resolve .loading text)

end Setup

end SpaceTeamSite.Site
