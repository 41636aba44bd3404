import SpaceTeamSite.Config.Basic
import SpaceTeamSite.Toml.Document
import SpaceTeamSite.Toml.Decode

/-!
# Reading the configuration from TOML

Each section is a record: a table read by key or an array read by position, every
absent field taking its default and unknown keys ignored. A missing section is the
default section. The default language is written `"tr"` or `"en"` exactly; it may
also be a table holding one of those keys set to an empty table or an empty array.

Anything the rules refuse, like a TOML error, makes the whole file malformed.
-/

namespace SpaceTeamSite

namespace ConfigReader

open Toml

/-- A language written as its code, or as a one-key table naming it. -/
def language : Value → Option Language
  | .string s => Language.ofCode? s
  | .table [(k, v)] =>
    match Language.ofCode? k, v with
    | some l, .table [] => some l
    | some l, .array [] => some l
    | _, _ => none
  | _ => none

/-- The largest values of the unsigned and signed machine integers the fields use. -/
def u16Max : Nat := 65535
def u32Max : Nat := 4294967295
def i32Min : Int := -2147483648
def i32Max : Int := 2147483647

/-- A section read by `read` from its value, or the default section when absent. -/
def readSection {α : Type} (names : List String) (read : List (Option Value) → Option α)
    (dflt : α) : Option Value → Option α
  | none => some dflt
  | some v => fieldsOf names v >>= read

/-- The `site` section. -/
def site : List (Option Value) → Option SiteConfig
  | [name, lang, width, overrides] => do
    let d : SiteConfig := {}
    some {
      name := ← fieldOr Value.string? d.name name
      defaultLanguage := ← fieldOr language d.defaultLanguage lang
      defaultViewportWidth := ← fieldOr (boundedNat u32Max) d.defaultViewportWidth width
      textOverrides := ← fieldOr Value.string? d.textOverrides overrides }
  | _ => none

/-- The `server` section. -/
def server : List (Option Value) → Option ServerConfig
  | [host, port] => do
    let d : ServerConfig := {}
    some {
      host := ← fieldOr Value.string? d.host host
      port := ← fieldOr (boundedNat u16Max) d.port port }
  | _ => none

/-- The `feeds` section. -/
def feeds : List (Option Value) → Option FeedsConfig
  | [launches, apod, offset, timeout] => do
    let d : FeedsConfig := {}
    some {
      launchesUrl := ← fieldOr Value.string? d.launchesUrl launches
      apodUrl := ← fieldOr Value.string? d.apodUrl apod
      displayUtcOffsetMinutes := ← fieldOr (boundedInt i32Min i32Max) d.displayUtcOffsetMinutes offset
      timeoutSecs := ← fieldOr (boundedNat i64Max.toNat) d.timeoutSecs timeout }
  | _ => none

/-- The `logging` section. -/
def logging : List (Option Value) → Option LoggingConfig
  | [level, dir] => do
    let d : LoggingConfig := {}
    some {
      level := ← fieldOr Value.string? d.level level
      dir := ← fieldOr Value.string? d.dir dir }
  | _ => none

/-- The whole configuration from the root table of a document. -/
def config (doc : List (String × Value)) : Option Config := do
  let d : Config := {}
  some {
    site := ← readSection ["name", "default_language", "default_viewport_width", "text_overrides"]
      site d.site (lookup doc "site")
    server := ← readSection ["host", "port"] server d.server (lookup doc "server")
    feeds := ← readSection ["launches_url", "apod_url", "display_utc_offset_minutes", "timeout_secs"]
      feeds d.feeds (lookup doc "feeds")
    logging := ← readSection ["level", "dir"] logging d.logging (lookup doc "logging") }

end ConfigReader

/-- Reads a configuration from the root table of a document, without validating it. -/
def Config.ofDocument (doc : List (String × Toml.Value)) : Except ConfigError Config :=
  match ConfigReader.config doc with
  | some c => .ok c
  | none => .error .malformedConfig

/-- Reads a configuration from TOML text, without validating it. -/
def Config.ofToml (text : String) : Except ConfigError Config :=
  match Toml.parseDocument text with
  | some doc => Config.ofDocument doc
  | none => .error .malformedConfig

/-- A document whose `server` table has its host and port set to the given address,
or that gains such a table when it has none; a `server` value that is not a table
stays as it is. -/
def ServerConfig.pin (s : ServerConfig) (doc : List (String × Toml.Value)) :
    List (String × Toml.Value) :=
  let address (es : List (String × Toml.Value)) :=
    Toml.setEntry (Toml.setEntry es "host" (.string s.host)) "port" (.integer s.port)
  match Toml.lookup doc "server" with
  | none => doc ++ [("server", .table (address []))]
  | some (.table es) => Toml.setEntry doc "server" (.table (address es))
  | some _ => doc

end SpaceTeamSite
