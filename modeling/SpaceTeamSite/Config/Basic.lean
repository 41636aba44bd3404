import SpaceTeamSite.I18n.Language
import SpaceTeamSite.Calendar.Offset

/-!
# The site's configuration

Four sections, each with a default for every field, so that an empty file, or none,
configures a working site: the page (`site`), the address to listen on (`server`), the
two feeds (`feeds`) and logging (`logging`).

Number fields are natural numbers and integers here; the reader only admits values in
the range of the field (`u32` for the viewport width, `u16` for the port, `i32` for the
offset, `u64` for the timeout). Two rules no field type can state are checked by
`Config.validate`: the display offset must be less than a day either way, and neither
feed URL may be empty.
-/

namespace SpaceTeamSite

/-- The offset of Istanbul from UTC, in minutes; launch times are shown in it unless
configured otherwise. -/
def istanbulOffsetMinutes : Int := 180

/-- Page-level settings. -/
structure SiteConfig where
  name : String := "İTÜ TAYF"
  /-- The language of a request that names none. -/
  defaultLanguage : Language := .primary
  /-- The viewport width of a request that reports none. -/
  defaultViewportWidth : Nat := 1280
  /-- A TOML file of text overrides; empty for the builtin texts only. -/
  textOverrides : String := ""
  deriving Repr

/-- Where the server listens. -/
structure ServerConfig where
  host : String := "127.0.0.1"
  port : Nat := 8080
  deriving Repr

/-- The two feeds and how their times are shown. -/
structure FeedsConfig where
  launchesUrl : String := "https://ll.thespacedevs.com/2.2.0/launch/upcoming/?limit=10&related=false"
  apodUrl : String := "https://api.nasa.gov/planetary/apod?api_key=DEMO_KEY&thumbs=true"
  /-- Minutes east of UTC in which launch times are shown. -/
  displayUtcOffsetMinutes : Int := istanbulOffsetMinutes
  /-- Seconds a feed request may take; zero leaves it to the transport. -/
  timeoutSecs : Nat := 0
  deriving Repr

/-- Logging settings. -/
structure LoggingConfig where
  level : String := "info"
  /-- A directory for a daily log file; empty for standard error only. -/
  dir : String := ""
  deriving Repr

/-- The whole configuration. -/
structure Config where
  site : SiteConfig := {}
  server : ServerConfig := {}
  feeds : FeedsConfig := {}
  logging : LoggingConfig := {}
  deriving Repr

/-- `host:port`. -/
def ServerConfig.addr (s : ServerConfig) : String := s.host ++ ":" ++ toString s.port

/-- The offset launch times are shown in; UTC should the configured one be out of
range, which a validated configuration rules out. -/
def FeedsConfig.displayOffset (f : FeedsConfig) : Calendar.Offset :=
  (Calendar.Offset.ofMinutes? f.displayUtcOffsetMinutes).getD .utc

/-- The request timeout in seconds, if one is set. -/
def FeedsConfig.timeout? (f : FeedsConfig) : Option Nat :=
  if f.timeoutSecs > 0 then some f.timeoutSecs else none

/-- Checks the rules the field types cannot: first the offset, then the URLs. -/
def Config.validate (c : Config) : Except ConfigError Unit :=
  if (Calendar.Offset.ofMinutes? c.feeds.displayUtcOffsetMinutes).isNone then
    .error (.offsetOutOfRange c.feeds.displayUtcOffsetMinutes)
  else if c.feeds.launchesUrl.isEmpty || c.feeds.apodUrl.isEmpty then
    .error .emptyFeedUrl
  else .ok ()

theorem validate_default : ({} : Config).validate = .ok () := by
  simp [Config.validate, Calendar.Offset.ofMinutes?, istanbulOffsetMinutes]

/-- A configuration that passes `validate` shows times in its own offset. -/
theorem displayOffset_of_validate (c : Config) (h : c.validate = .ok ()) :
    c.feeds.displayOffset.minutes = c.feeds.displayUtcOffsetMinutes := by
  unfold Config.validate at h
  unfold FeedsConfig.displayOffset
  cases hm : Calendar.Offset.ofMinutes? c.feeds.displayUtcOffsetMinutes with
  | none => simp [hm] at h
  | some o =>
    simp only [Option.getD_some]
    unfold Calendar.Offset.ofMinutes? at hm
    split at hm
    · cases hm; rfl
    · cases hm

end SpaceTeamSite
