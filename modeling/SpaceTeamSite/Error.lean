import SpaceTeamSite.Http.Status

/-!
# Errors

Every failure the site reports is one of three kinds: a feed that gave no data, a
configuration that cannot be used, or a file the operating system would not read.
Each kind is an inductive of causes, and `SiteError.message` is the one place
where a cause becomes text: the kind's prefix, then the cause's detail.
-/

namespace SpaceTeamSite

/-- Why the operating system refused a file or network operation. A path holding a
NUL byte is refused before the system sees it, and a file that is not UTF-8 when it
is read as text. -/
inductive OsError where
  | notFound
  | isDirectory
  | notADirectory
  | alreadyExists
  | nameTooLong
  | nulInPath
  | invalidUtf8
  | permissionDenied
  | addressInUse
  deriving DecidableEq, Repr

/-- The operating system's own text for the refusal, with its error number. -/
def OsError.describe : OsError → String
  | .notFound => "No such file or directory (os error 2)"
  | .isDirectory => "Is a directory (os error 21)"
  | .notADirectory => "Not a directory (os error 20)"
  | .alreadyExists => "File exists (os error 17)"
  | .nameTooLong => "File name too long (os error 36)"
  | .nulInPath => "file name contained an unexpected NUL byte"
  | .invalidUtf8 => "stream did not contain valid UTF-8"
  | .permissionDenied => "Permission denied (os error 13)"
  | .addressInUse => "Address already in use (os error 98)"

/-- Why a configuration or a text-override document cannot be used. -/
inductive ConfigError where
  | unsupportedLanguage (given : String)
  | unknownTextKey (given : String)
  | malformedConfig
  | malformedOverrides
  | offsetOutOfRange (minutes : Int)
  | emptyFeedUrl
  | unreadableConfig (path : String) (cause : OsError)
  deriving DecidableEq, Repr

/-- The text of a configuration problem. -/
def ConfigError.detail : ConfigError → String
  | .unsupportedLanguage s => "unsupported language: " ++ s
  | .unknownTextKey s => "unknown text key: " ++ s
  | .malformedConfig => "failed to parse config"
  | .malformedOverrides => "failed to parse text overrides"
  | .offsetOutOfRange m => "display_utc_offset_minutes out of range: " ++ toString m
  | .emptyFeedUrl => "feed URLs must not be empty"
  | .unreadableConfig p e => "failed to read " ++ p ++ ": " ++ e.describe

/-- Why a feed gave no data. `source` names the feed. -/
inductive FeedError where
  | requestFailed (source : String)
  | badStatus (source : String) (code : Nat)
  | undecodable (source : String)
  | reported (text : String)
  deriving DecidableEq, Repr

/-- The text of a feed problem. -/
def FeedError.detail : FeedError → String
  | .requestFailed s => s ++ " request failed"
  | .badStatus s code => s ++ " returned " ++ Http.statusText code
  | .undecodable s => s ++ ": failed to parse response"
  | .reported t => t

/-- A failure the site reports. -/
inductive SiteError where
  | feed (e : FeedError)
  | config (e : ConfigError)
  | io (e : OsError)
  deriving DecidableEq, Repr

/-- The full text of a failure: its kind, then its detail. -/
def SiteError.message : SiteError → String
  | .feed e => "feed error: " ++ e.detail
  | .config e => "config error: " ++ e.detail
  | .io e => "io error: " ++ e.describe

end SpaceTeamSite
