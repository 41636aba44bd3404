import SpaceTeamSite.Config.Decode
import SpaceTeamSite.Host.Files
import SpaceTeamSite.I18n.Overrides

/-!
# Loading the configuration

`Config.load` reads the configuration file at a path. When nothing is there the site
runs on the defaults; what is there must be a file of text that reads as a
configuration and passes `Config.validate`. The text table of a configuration is the builtin one, or the
builtin one with the overrides of the configured file.
-/

namespace SpaceTeamSite

/-- The configuration at `path`, its document passed through `prepare` before it is
read: the defaults when the path names nothing, else the file there, read and
validated. A file that is not a TOML document is malformed whatever `prepare` does,
and so is one that `prepare` turns into none. -/
def Config.loadWith (prepare : List (String × Toml.Value) → Option (List (String × Toml.Value)))
    (fs : Files) (path : String) : Except ConfigError Config :=
  if !fs.present path then .ok {}
  else
    match fs.read path with
    | .error e => .error (.unreadableConfig path e)
    | .ok text => do
      let doc ← match Toml.parseDocument text with
        | some doc => pure doc
        | none => .error .malformedConfig
      let some doc := prepare doc | .error .malformedConfig
      let c ← Config.ofDocument doc
      c.validate
      pure c

/-- The configuration at `path`: the defaults when the path names nothing, else the
file there, read and validated. -/
def Config.load (fs : Files) (path : String) : Except ConfigError Config :=
  Config.loadWith some fs path

/-- The text table of the site: the builtin texts, with the configured override file
on top when one is named. -/
def SiteConfig.textTable (s : SiteConfig) (fs : Files) : Except SiteError TextTable :=
  if s.textOverrides.isEmpty then .ok .builtin
  else
    match fs.read s.textOverrides with
    | .error e => .error (.io e)
    | .ok text =>
      match TextTable.ofToml text with
      | .ok t => .ok t
      | .error e => .error (.config e)

theorem load_missing (fs : Files) (path : String) (h : fs.present path = false) :
    Config.load fs path = .ok {} := by
  simp [Config.load, Config.loadWith, h]

end SpaceTeamSite
