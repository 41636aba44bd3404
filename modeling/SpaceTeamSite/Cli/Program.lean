import SpaceTeamSite.Cli.Args
import SpaceTeamSite.Cli.Reports
import SpaceTeamSite.Log.Events

/-!
# A run of the tool

`run` is one invocation of the command-line tool as a function of what it can see: its
arguments, the configuration and logging variables, the files of its working directory
and the answers of the feeds. It ends with an exit code, what it printed, what it
logged, and the line that says why it failed, if it did.

The steps, each of which can end the run:

1. the command line is read (help, version and usage errors end here);
2. the configuration is loaded;
3. logging is set up: the filter is the logging variable when it is set and reads,
   else the configured level read leniently, which may say first which directives it
   drops; the log directory is made with its missing parents, and one that cannot be
   made aborts the process; later steps see the directories made;
4. the command runs; `launches`, `apod` and `status` build the site first, and
   `serve` builds it and then listens until it is stopped. The events it logs and
   the filter lets through are written as they happen, before the closing line.
-/

namespace SpaceTeamSite.Cli

open Site

/-- What a run of the tool can see. -/
structure World where
  args : List String
  /-- The value of the configuration variable, when it is set. -/
  configVar : Option String
  /-- The value of the logging variable, when it is set. -/
  logVar : Option String
  files : Files
  feeds : FeedAnswers
  /-- How the file at a path was rewritten before the run, when it holds a document:
  as the tool reads it, the file holds this of the document it was given, or none
  when the file as rewritten no longer reads as a document. -/
  rewrite : String → List (String × Toml.Value) → Option (List (String × Toml.Value)) :=
    fun _ => some
  /-- Whether the address `serve` listens on is already taken. -/
  addressTaken : Bool := false

/-- Why a command failed. -/
inductive Failure where
  | site (e : SiteError)
  /-- The operating system refused the listening address. -/
  | os (e : OsError)
  deriving DecidableEq, Repr

/-- The line the tool prints for a failure. -/
def Failure.line : Failure → String
  | .site e => "Error: " ++ e.message
  | .os e => "Error: " ++ e.describe

/-- How a run ends. -/
structure Outcome where
  /-- The exit code; none while `serve` is still serving. -/
  exit : Option Nat
  stdout : String
  /-- The lines written to the error stream before the closing line: the filter's own
  and the events logged. -/
  log : List String := []
  /-- The line saying why the run failed. -/
  errorLine : Option String := none
  deriving DecidableEq, Repr

namespace Outcome

/-- A command that printed `text` and succeeded. -/
def printed (text : String) : Outcome := { exit := some 0, stdout := text }

/-- A command that failed. -/
def failed (f : Failure) : Outcome := { exit := some 1, stdout := "", errorLine := some f.line }

/-- A process that aborted, with no line of its own. -/
def aborted : Outcome := { exit := some 101, stdout := "" }

/-- A server still serving. -/
def serving : Outcome := { exit := none, stdout := "" }

/-- An outcome with lines written before its own. -/
def withLog (o : Outcome) (lines : List String) : Outcome := { o with log := lines ++ o.log }

end Outcome

/-- The outcome of a command line that did not get to run a command. -/
def Stop.outcome : Stop → Outcome
  | .printed text => .printed text
  | .usage line => { exit := some 2, stdout := "", errorLine := some line }
  | .helpAsError _ => { exit := some 2, stdout := "" }

/-- The language a command shows: the one given, or the configured one. -/
def pickLanguage (given : Option String) (c : Config) : Except Failure Language :=
  match given with
  | some code => (Language.parse code).mapError fun e => .site (.config e)
  | none => .ok c.site.defaultLanguage

/-- Builds the site of a configuration. -/
def buildSite (w : World) (c : Config) : Except Failure Setup :=
  (Setup.build c w.files w.feeds).mapError .site

/-- What a command did: the events it logged, and what it printed (none while it
serves) or why it failed. -/
abbrev Performance := List Log.Event × Except Failure (Option String)

/-- A command that failed before it logged anything. -/
def Performance.failed (f : Failure) : Performance := ([], .error f)

/-- Builds the site of a configuration and goes on with it; reading the site's texts
is logged first. -/
def withSite (w : World) (c : Config) (k : Setup → Performance) : Performance :=
  match buildSite w c with
  | .error f => .failed f
  | .ok s =>
    let (events, result) := k s
    (Log.textsRead c.site s.text ++ events, result)

/-- The site's language, then the site, then the rest of a command. -/
def withLanguageAndSite (w : World) (c : Config) (given : Option String)
    (k : Language → Setup → Performance) : Performance :=
  match pickLanguage given c with
  | .error f => .failed f
  | .ok lang => withSite w c (k lang)

/-- Runs a command on a loaded configuration. -/
def Command.perform (w : World) (configPath : String) (c : Config) : Command → Performance
  | .keys code =>
    match Language.parse code with
    | .error e => .failed (.site (.config e))
    | .ok lang =>
      match c.site.textTable w.files with
      | .error e => .failed (.site e)
      | .ok table => (Log.textsRead c.site table, .ok (some (keysReport table lang)))
  | .launches lang width all =>
    withLanguageAndSite w c lang fun lang s =>
      (Log.launchesLoaded c w.feeds, .ok (some (launchesReport s lang (width.getD s.defaultWidth) all)))
  | .apod lang =>
    withLanguageAndSite w c lang fun lang s =>
      (Log.pictureLoaded c w.feeds, .ok (some (pictureReport s lang)))
  | .status =>
    withSite w c fun s => (Log.bothLoaded c w.feeds, .ok (some (statusReport configPath c s)))
  | .serve =>
    withSite w c fun _ =>
      let addr := c.server.addr
      if w.addressTaken then
        ([Log.serving c, Log.bindFailed addr .addressInUse], .error (.os .addressInUse))
      else ([Log.serving c, Log.listening addr], .ok none)

/-- The filter of a run, with the lines written while it is read: the logging variable
when it is set and reads, else the configured level read leniently. -/
def logFilter (var : Option String) (level : String) : Log.Filter × List String :=
  match var.bind Log.Filter.parse? with
  | some f => (f, [])
  | none => Log.Filter.parseLenient level

/-- The length in bytes of the log file's name in its directory: `tayf.log.` and the
day, such as `tayf.log.2026-11-13`. -/
def logFileNameBytes : Nat := 19

/-- The length in bytes of the log file's path in a directory: a separator stands
between them unless the directory's path ends in one. -/
def logPathBytes (dir : String) : Nat :=
  dir.utf8ByteSize + (if dir.endsWith "/" then 0 else 1) + logFileNameBytes

/-- Makes the log directory of a configuration, when it names one, and opens the log
file there: the files with the directories made, or why the file cannot be opened. -/
def openLog (fs : Files) (dir : String) : Except OsError Files :=
  if dir.isEmpty then .ok fs
  else do
    let (fs, place) ← fs.makeDir dir
    if Files.pathLimit ≤ logPathBytes dir then throw .nameTooLong
    if place.isSealed then throw .permissionDenied
    pure fs

/-- Runs a command line that was read. -/
def Invocation.execute (w : World) (inv : Invocation) : Outcome :=
  match Config.loadWith (w.rewrite inv.config) w.files inv.config with
  | .error e => .failed (.site (.config e))
  | .ok c =>
    let (filter, dropped) := logFilter w.logVar c.logging.level
    match openLog w.files c.logging.dir with
    | .error _ => Outcome.aborted.withLog dropped
    | .ok files =>
      let (events, result) := inv.command.perform { w with files } inv.config c
      let o : Outcome := match result with
        | .error f => .failed f
        | .ok (some text) => .printed text
        | .ok none => .serving
      o.withLog (dropped ++ (filter.pass events).map Log.Event.text)

/-- One run of the tool. -/
def run (w : World) : Outcome :=
  match parseArgs w.args w.configVar with
  | .error stop => stop.outcome
  | .ok inv => inv.execute w

/-- A run whose command line stops early never reads a file. -/
theorem run_of_stop (w : World) (stop : Stop) (h : parseArgs w.args w.configVar = .error stop) :
    run w = stop.outcome := by
  simp [run, h]

end SpaceTeamSite.Cli
