import SpaceTeamSite.Cli.Program

/-!
# The command-line tool

The thin outer layer of `tayf`: it reads the arguments, the configuration and logging
variables and the two files a run can read (the configuration and its text overrides), hands them to
`Cli.run`, and prints what the run decided. Feeds are answered as unreachable, and
`serve` ends once its site is built, since listening is not part of this library.
-/

open SpaceTeamSite

/-- The content of the regular file at `path`, with its path, if it can be read. -/
def readRegular (path : String) : IO (List (String × String)) := do
  if path.isEmpty then return []
  try
    let content ← IO.FS.readFile path
    return [(path, content)]
  catch _ =>
    return []

def main (args : List String) : IO UInt32 := do
  let var ← IO.getEnv Cli.configEnv
  let configPath := match Cli.parseArgs args var with
    | .ok inv => inv.config
    | .error _ => Cli.defaultConfigPath
  let configFile ← readRegular configPath
  let overrides := match Config.load { entries := configFile } configPath with
    | .ok c => c.site.textOverrides
    | .error _ => ""
  let overrideFile ← readRegular overrides
  let logVar ← IO.getEnv Cli.logEnv
  let world : Cli.World := {
    args, configVar := var, logVar, files := { entries := configFile ++ overrideFile }
    feeds := FeedAnswers.offline }
  let out := Cli.run world
  IO.print out.stdout
  for line in out.log do IO.eprintln line
  if let some line := out.errorLine then IO.eprintln line
  return (out.exit.getD 0).toUInt32
