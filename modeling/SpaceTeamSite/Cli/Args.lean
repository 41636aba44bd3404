/-!
# The command line

The tool is `tayf [OPTIONS] <COMMAND>` with the commands `serve`, `launches`, `apod`,
`keys`, `status` and `help`. Arguments are read left to right:

* a word that names a command starts it, unless an option waits for its value; the
  rest of the line belongs to the command;
* `--` makes every later argument a plain word;
* `--name`, `--name=value`, `-x`, `-xvalue`, `-x=value` and clusters such as `-hV` name
  options; an option that takes a value and has none attached waits for the next
  argument, unless that argument is itself an option or a command;
* any other word is an error.

An option's value is checked when the option is complete: when the next option starts,
when its command's words run out, or after the command it precedes has been read. So
an error in a command is reported before a missing value of an option before it, and
a bad value is not reported if an unknown argument follows it. Giving an option twice
is an error. `--help` and `--version` answer at once, on standard output.

Without any argument at all the tool prints its help as an error. A line that gives
something (an environment variable counts) but no command is an error too.
-/

namespace SpaceTeamSite.Cli

/-- What an option's value must be. -/
inductive ValueKind where
  | text
  /-- An unsigned 32-bit number. -/
  | u32
  deriving DecidableEq, Repr

/-- What an option does. -/
inductive OptionKind where
  /-- Takes one value, shown as `<name>`. -/
  | value (name : String) (kind : ValueKind)
  | flag
  | help
  | version
  deriving DecidableEq, Repr

/-- An option of a command. -/
structure OptionSpec where
  short : Option Char
  long : String
  kind : OptionKind
  help : String := ""
  dflt : Option String := none
  env : Option String := none
  deriving DecidableEq, Repr

/-- How an option is named in messages: `--long` and its value name. -/
def OptionSpec.display (o : OptionSpec) : String :=
  "--" ++ o.long ++ match o.kind with
    | .value n _ => " <" ++ n ++ ">"
    | _ => ""

/-- The options every command has. -/
def helpOption : OptionSpec := ⟨some 'h', "help", .help, "Print help", none, none⟩

/-- The language `keys` audits when none is given. -/
def keysLanguage : String := "en"

/-- The commands of the tool. -/
inductive Subcommand where
  | serve
  | launches
  | apod
  | keys
  | status
  deriving DecidableEq, Repr

namespace Subcommand

/-- Every command, in the order help lists them. -/
def all : List Subcommand := [.serve, .launches, .apod, .keys, .status]

/-- The command's name on the command line. -/
def name : Subcommand → String
  | .serve => "serve"
  | .launches => "launches"
  | .apod => "apod"
  | .keys => "keys"
  | .status => "status"

/-- The command named `s`. -/
def ofName? (s : String) : Option Subcommand := all.find? (·.name == s)

/-- One line on what the command does. -/
def about : Subcommand → String
  | .serve => "Start the HTTP server"
  | .launches => "Fetch upcoming launches once and print the cards"
  | .apod => "Fetch today's astronomy picture once and print it"
  | .keys => "List text keys that fall back to the primary language"
  | .status => "Show effective configuration and probe both feeds"

/-- The command's options. -/
def options : Subcommand → List OptionSpec
  | .launches =>
    [⟨some 'l', "lang", .value "LANG" .text, "Display language (tr, en)", none, none⟩,
     ⟨some 'w', "width", .value "WIDTH" .u32, "Viewport width the card count is computed for", none, none⟩,
     ⟨none, "all", .flag, "Show the expanded list", none, none⟩, helpOption]
  | .apod => [⟨some 'l', "lang", .value "LANG" .text, "", none, none⟩, helpOption]
  | .keys => [⟨some 'l', "lang", .value "LANG" .text, "", some keysLanguage, none⟩, helpOption]
  | _ => [helpOption]

end Subcommand

/-- The tool's name. -/
def programName : String := "tayf"

/-- The tool's version line. -/
def versionLine : String := programName ++ " 0.1.0\n"

/-- One line on what the tool does. -/
def programAbout : String :=
  "İTÜ TAYF: bilingual team site with live launch and astronomy-picture widgets"

/-- The environment variable that names the configuration file. -/
def configEnv : String := "TAYF_CONFIG"

/-- The environment variable that holds the log filter. -/
def logEnv : String := "RUST_LOG"

/-- The configuration file read when none is named. -/
def defaultConfigPath : String := "tayf.toml"

/-- The tool's own options. -/
def topOptions : List OptionSpec :=
  [⟨some 'c', "config", .value "CONFIG" .text, "Path to config file", some defaultConfigPath, some configEnv⟩,
   helpOption, ⟨some 'V', "version", .version, "Print version", none, none⟩]

/-! ## Help -/

/-- Pads `s` with spaces to `width` characters. -/
def padTo (width : Nat) (s : String) : String := s ++ String.ofList (List.replicate (width - s.length) ' ')

/-- The notes after an option's help: its environment variable and its default. -/
def OptionSpec.notes (o : OptionSpec) (envValue : Option String) : List String :=
  (match o.env with
    | some e => ["[env: " ++ e ++ "=" ++ envValue.getD "" ++ "]"]
    | none => []) ++
  (match o.dflt with
    | some d => ["[default: " ++ d ++ "]"]
    | none => [])

/-- The help line of an option, aligned to `longest`. -/
def OptionSpec.helpLine (o : OptionSpec) (longest : Nat) (envValue : Option String) : String :=
  let names := (match o.short with
    | some c => "-" ++ String.singleton c ++ ", "
    | none => "    ") ++ o.display
  let text := " ".intercalate ((if o.help.isEmpty then [] else [o.help]) ++ o.notes envValue)
  "  " ++ padTo (longest + 6) names ++ text

/-- The options section of a help text. -/
def optionsSection (opts : List OptionSpec) (envValue : Option String) : String :=
  let longest := (opts.map fun o => o.display.length).foldl max 0
  "Options:\n" ++ "\n".intercalate (opts.map fun o => o.helpLine longest envValue)

/-- Whether usage shows `[OPTIONS]`: some option other than help and version. -/
def showsOptions (opts : List OptionSpec) : Bool :=
  opts.any fun o => o.kind != .help && o.kind != .version

/-- The help of the tool; `envValue` is the configuration variable's value. -/
def programHelp (envValue : Option String) : String :=
  let names := Subcommand.all.map (·.name) ++ ["help"]
  let abouts := Subcommand.all.map (·.about) ++ ["Print this message or the help of the given subcommand(s)"]
  let longest := (names.map String.length).foldl max 0
  programAbout ++ "\n\nUsage: " ++ programName ++ " [OPTIONS] <COMMAND>\n\nCommands:\n" ++
  String.join ((names.zip abouts).map fun (n, a) => "  " ++ padTo (longest + 2) n ++ a ++ "\n") ++
  "\n" ++ optionsSection topOptions envValue ++ "\n"

/-- The help of a command. -/
def Subcommand.help (s : Subcommand) : String :=
  s.about ++ "\n\nUsage: " ++ programName ++ " " ++ s.name ++
  (if showsOptions s.options then " [OPTIONS]" else "") ++ "\n\n" ++
  optionsSection s.options none ++ "\n"

/-- The help of the `help` command. -/
def helpCommandHelp : String :=
  "Print this message or the help of the given subcommand(s)\n\nUsage: " ++ programName ++
  " help [COMMAND]...\n\nArguments:\n  [COMMAND]...  Print help for the subcommand(s)\n"

/-! ## Values -/

/-- The message of a number that does not read as a signed 64-bit integer, or the
number. Digits are checked one at a time, and overflow as soon as it happens. -/
def readI64 (s : String) : Except String Int :=
  let i64Max : Int := 9223372036854775807
  let i64Min : Int := -9223372036854775808
  let go (negative : Bool) (ds : List Char) : Except String Int :=
    ds.foldlM (fun (acc : Int) c =>
      if c.isDigit then
        let d : Int := (c.toNat - 48 : Nat)
        let next := if negative then acc * 10 - d else acc * 10 + d
        if next > i64Max then .error "number too large to fit in target type"
        else if next < i64Min then .error "number too small to fit in target type"
        else .ok next
      else .error "invalid digit found in string") 0
  match s.toList with
  | [] => .error "cannot parse integer from empty string"
  | ['+'] | ['-'] => .error "invalid digit found in string"
  | '+' :: ds => go false ds
  | '-' :: ds => go true ds
  | ds => go false ds

/-- The largest unsigned 32-bit number. -/
def u32Limit : Nat := 4294967295

/-- Reads an unsigned 32-bit value, or says why not; a number out of range is named as
it was read, without its sign or leading zeros. -/
def readU32 (s : String) : Except String Nat := do
  let n ← readI64 s
  if 0 ≤ n ∧ n ≤ u32Limit then pure n.toNat
  else .error (toString n ++ " is not in 0..=" ++ toString u32Limit)

/-! ## Reading the arguments -/

/-- How reading the command line can stop before the tool runs. -/
inductive Stop where
  /-- Help or version, printed on standard output. -/
  | printed (text : String)
  /-- A usage error; the first line of what is printed on standard error. -/
  | usage (line : String)
  /-- The tool's help, printed on standard error as an error. -/
  | helpAsError (text : String)
  deriving DecidableEq, Repr

/-- The options given to one command: long name and value (none for a flag). -/
abbrev Given := List (String × Option String)

/-- The state of reading one command's arguments. -/
structure Reading where
  given : Given := []
  /-- An option not yet complete: it waits for a value, or holds one to be checked. -/
  pending : Option (OptionSpec × Option String) := none
  /-- Whether `--` was seen. -/
  plain : Bool := false

/-- Checks a complete option's value and records it. -/
def record (given : Given) (o : OptionSpec) (v : Option String) : Except Stop Given :=
  match o.kind with
  | .help | .version => .ok given
  | .flag =>
    if given.any (·.1 == o.long) then
      .error (.usage ("error: the argument '" ++ o.display ++ "' cannot be used multiple times"))
    else .ok (given ++ [(o.long, none)])
  | .value _ kind =>
    match v with
    | none => .error (.usage ("error: a value is required for '" ++ o.display ++ "' but none was supplied"))
    | some val =>
      if given.any (·.1 == o.long) then
        .error (.usage ("error: the argument '" ++ o.display ++ "' cannot be used multiple times"))
      else
        match kind, readU32 val with
        | .u32, .error why =>
          .error (.usage ("error: invalid value '" ++ val ++ "' for '" ++ o.display ++ "': " ++ why))
        | _, _ => .ok (given ++ [(o.long, some val)])

/-- Completes the pending option, if any. -/
def Reading.settle (r : Reading) : Except Stop Reading :=
  match r.pending with
  | none => .ok r
  | some (o, v) => do
    let given ← record r.given o v
    pure { r with given, pending := none }

/-- An option given on the command line, with its attached value if any. -/
def Reading.use (r : Reading) (o : OptionSpec) (attached : Option String) (help : String) :
    Except Stop Reading := do
  let r ← r.settle
  match o.kind with
  | .help => .error (.printed help)
  | .version => .error (.printed versionLine)
  | .flag => pure { r with given := ← record r.given o none }
  | .value _ _ =>
    match attached with
    | some v => pure { r with given := ← record r.given o (some v) }
    | none => pure { r with pending := some (o, none) }

/-- The error of an argument nothing expects. -/
def unexpected (arg : String) : Stop := .usage ("error: unexpected argument '" ++ arg ++ "' found")

/-- Reads a cluster of short options after its dash. -/
def Reading.shorts (r : Reading) (opts : List OptionSpec) (help : String) :
    List Char → Except Stop Reading
  | [] => .ok r
  | c :: rest =>
    match opts.find? (·.short == some c) with
    | none => .error (unexpected ("-" ++ String.singleton c))
    | some o =>
      match o.kind with
      | .value _ _ =>
        let attached := match rest with
          | [] => none
          | '=' :: v => some (String.ofList v)
          | v => some (String.ofList v)
        r.use o attached help
      | _ => do
        let r ← r.use o none help
        r.shorts opts help rest

/-- Reads one argument that is not a command name. -/
def Reading.step (r : Reading) (opts : List OptionSpec) (help : String) (commands : Bool)
    (arg : String) : Except Stop Reading :=
  let plainWord : Except Stop Reading :=
    match r.pending with
    | some (o, none) => if r.plain then .error (.usage (wordError arg)) else .ok { r with pending := some (o, some arg) }
    | _ => .error (.usage (wordError arg))
  if r.plain then plainWord
  else if arg == "--" then .ok { r with plain := true }
  else if arg.startsWith "--" then
    let body := (arg.drop 2).toString
    let (name, attached) := match body.splitOn "=" with
      | n :: v :: more => (n, some ("=".intercalate (v :: more)))
      | _ => (body, none)
    match opts.find? (·.long == name) with
    | none => .error (unexpected ("--" ++ name))
    | some o =>
      match o.kind, attached with
      | .value _ _, _ => r.use o attached help
      | _, some v =>
        .error (.usage ("error: unexpected value '" ++ v ++ "' for '" ++ o.display ++
          "' found; no more were expected"))
      | _, none => r.use o none help
  else if arg.startsWith "-" && arg != "-" then r.shorts opts help (arg.toList.drop 1)
  else plainWord
where
  /-- The error of a plain word no option waits for: where commands are expected, a
  word that is no command (a command after `--` is a plain argument). -/
  wordError (word : String) : String :=
    if commands && !(r.plain && ((Subcommand.ofName? word).isSome || word == "help")) then
      "error: unrecognized subcommand '" ++ word ++ "'"
    else "error: unexpected argument '" ++ word ++ "' found"

/-- The help the `help` command prints for the command names after it. -/
def helpFor (envValue : Option String) : List String → Except Stop String
  | [] => .ok (programHelp envValue)
  | name :: rest =>
    match Subcommand.ofName? name, rest with
    | some s, [] => .ok s.help
    | some _, more :: _ => .error (.usage ("error: unrecognized subcommand '" ++ more ++ "'"))
    | none, [] => if name == "help" then .ok helpCommandHelp
        else .error (.usage ("error: unrecognized subcommand '" ++ name ++ "'"))
    | none, more :: _ =>
      if name == "help" then .error (.usage ("error: unrecognized subcommand '" ++ more ++ "'"))
      else .error (.usage ("error: unrecognized subcommand '" ++ name ++ "'"))

/-- Whether a word may name a command: commands are expected, `--` was not seen, and
no option waits for its value (which the word then is). -/
def Reading.expectsCommand (r : Reading) (commands : Bool) : Bool :=
  commands && !r.plain && match r.pending with
    | some (_, none) => false
    | _ => true

/-- Reads a command's arguments up to the end or, for the tool itself, up to a command
name: the state, and the command found with the arguments after it. -/
def readLevel (opts : List OptionSpec) (help : String) (commands : Bool) (envValue : Option String) :
    Reading → List String → Except Stop (Reading × Option (Subcommand × List String))
  | r, [] => .ok (r, none)
  | r, arg :: rest =>
    if r.expectsCommand commands && arg == "help" then
      match helpFor envValue rest with
      | .ok text => .error (.printed text)
      | .error e => .error e
    else
      match (if r.expectsCommand commands then Subcommand.ofName? arg else none) with
      | some s => .ok (r, some (s, rest))
      | none => do
        let r ← r.step opts help commands arg
        readLevel opts help commands envValue r rest

/-- A command with its options. -/
inductive Command where
  | serve
  /-- The language and viewport width when given, and whether the list is expanded. -/
  | launches (lang : Option String) (width : Option Nat) (all : Bool)
  | apod (lang : Option String)
  | keys (lang : String)
  | status
  deriving DecidableEq, Repr

/-- The command `s` with the options given to it. -/
def Subcommand.command (s : Subcommand) (given : Given) : Command :=
  let value (long : String) : Option String := (given.find? (·.1 == long)).bind (·.2)
  match s with
  | .serve => .serve
  | .launches =>
    .launches (value "lang") ((value "width").bind fun v => (readU32 v).toOption)
      (given.any (·.1 == "all"))
  | .apod => .apod (value "lang")
  | .keys => .keys ((value "lang").getD keysLanguage)
  | .status => .status

/-- A command line read: the configuration path and the command. -/
structure Invocation where
  config : String
  command : Command
  deriving DecidableEq, Repr

/-- Reads the command line, with the configuration variable's value if it is set. -/
def parseArgs (args : List String) (envValue : Option String) : Except Stop Invocation := do
  let help := programHelp envValue
  let (top, found) ← readLevel topOptions help true envValue {} args
  let sub ← match found with
    | some (s, rest) => do
      let (r, _) ← readLevel s.options s.help false envValue {} rest
      let r ← r.settle
      pure (some (s.command r.given))
    | none => pure none
  let top ← top.settle
  let fromLine := (top.given.find? (·.1 == "config")).bind (·.2)
  let config := (fromLine.or envValue).getD defaultConfigPath
  match sub with
  | some command => pure ⟨config, command⟩
  | none =>
    if top.given.isEmpty && envValue.isNone then .error (.helpAsError help)
    else .error (.usage ("error: '" ++ programName ++ "' requires a subcommand but one was not provided"))

end SpaceTeamSite.Cli
