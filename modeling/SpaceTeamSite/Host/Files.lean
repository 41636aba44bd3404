import SpaceTeamSite.Error

/-!
# The files the site can see

The site reads two kinds of file, its configuration and a text-override document, and
makes one directory, for its logs. `Files` is what it sees of the file system: regular
files by path, the directories made during the run, and the host's own tree around
the working directory (`hostDirs`, `hostFiles`, `Location.link?`).

Paths resolve as the operating system resolves them. A path starting with `/` starts
at the host's root, any other at the working directory, which lies in `workParent`;
empty components and `.` stay in place, `..` goes up (and stays at the root), and a
component after a regular file fails with "not a directory". `/proc/self/cwd` leads to
the working directory and `/proc/self/root` to the root. A path of `pathLimit` bytes
or more, or with a component longer than `nameLimit` bytes, is too long, and a NUL byte
is refused before the path is resolved at all.

`makeDir` makes a directory with its missing parents, walking the path as a lookup
does and making each directory it misses: it fails where the walk meets a regular
file or ends on one, and nothing can be made in the kernel's trees `/proc` and `/sys`.
-/

namespace SpaceTeamSite

/-- A file or directory by its components: in the working tree, or on the host from its
root. -/
inductive Location where
  | work (path : List String)
  | host (path : List String)
  deriving DecidableEq, Repr

/-- The host directory that holds the working directory. -/
def workParent : List String := ["tmp"]

namespace Location

/-- The entry of the given name in a directory. -/
def child : Location → String → Location
  | .work p, name => .work (p ++ [name])
  | .host p, name => .host (p ++ [name])

/-- The directory holding a directory; the root holds itself. -/
def parent : Location → Location
  | .work [] => .host workParent
  | .work p => .work p.dropLast
  | .host p => .host p.dropLast

/-- Whether `inner` lies strictly below `outer`, on the same side. -/
def below (inner outer : Location) : Bool :=
  match inner, outer with
  | .work a, .work b | .host a, .host b => b.length < a.length && a.take b.length == b
  | _, _ => false

/-- Where a link of the host leads. -/
def link? : Location → Option Location
  | .host ["proc", "self", "cwd"] => some (.work [])
  | .host ["proc", "self", "root"] => some (.host [])
  | .host ["proc", "mounts"] => some (.host ["proc", "self", "mounts"])
  | .host ["proc", "net"] => some (.host ["proc", "self", "net"])
  | .host ["dev", "fd"] => some (.host ["proc", "self", "fd"])
  | _ => none

/-- Whether a location is in the kernel's trees, where nothing can be made. -/
def isSealed : Location → Bool
  | .host ("proc" :: _) | .host ("sys" :: _) => true
  | _ => false

/-- The location a stored path names: relative to the working directory, or absolute
when it starts with `/`. -/
def ofPath (path : String) : Location :=
  let cs := (path.splitOn "/").filter fun c => c != "" && c != "."
  if path.startsWith "/" then .host cs else .work cs

end Location

/-- What a regular file holds: text, or bytes that are not UTF-8. -/
inductive Content where
  | text (s : String)
  | binary
  deriving DecidableEq, Repr

/-- The files a run sees: regular files by stored path, and the directories made
during the run. -/
structure Files where
  entries : List (String × String) := []
  made : List Location := []

/-- What a path names. -/
inductive FileLookup where
  | file (content : Content)
  | directory
  | failed (e : OsError)

namespace Files

/-- Paths are shorter than this many bytes. -/
def pathLimit : Nat := 4096

/-- The longest component of a path, in bytes. -/
def nameLimit : Nat := 255

/-- The host's directories: its root, the standard ones below it, and the kernel's. -/
def hostDirs : List (List String) :=
  [[], ["bin"], ["boot"], ["dev"], ["dev", "mqueue"], ["dev", "pts"], ["dev", "shm"],
    ["etc"], ["home"], ["lib"], ["media"], ["mnt"], ["opt"],
    ["proc"], ["proc", "1"], ["proc", "sys"], ["proc", "self"], ["proc", "self", "attr"],
    ["proc", "self", "fd"], ["proc", "self", "fdinfo"], ["proc", "self", "net"],
    ["proc", "self", "ns"], ["proc", "self", "task"],
    ["root"], ["run"], ["sbin"], ["srv"],
    ["sys"], ["sys", "block"], ["sys", "bus"], ["sys", "class"], ["sys", "dev"],
    ["sys", "devices"], ["sys", "firmware"], ["sys", "fs"], ["sys", "kernel"],
    ["sys", "module"], ["sys", "power"],
    ["tmp"], ["usr"], ["usr", "bin"], ["usr", "lib"], ["usr", "local"], ["usr", "sbin"],
    ["usr", "share"], ["var"], ["var", "cache"], ["var", "lib"], ["var", "log"],
    ["var", "tmp"]]

/-- The system tables of the host, each with its first line: none of them is TOML. -/
def systemTables : List (List String × String) :=
  [(["etc", "passwd"], "root:x:0:0:root:/root:/bin/sh\n"),
    (["etc", "group"], "root:x:0:\n"),
    (["etc", "hostname"], "localhost\n"),
    (["etc", "hosts"], "127.0.0.1\tlocalhost\n"),
    (["etc", "resolv.conf"], "nameserver 127.0.0.1\n"),
    (["etc", "shells"], "/bin/sh\n"),
    (["proc", "cmdline"], "console=ttyS0\n"),
    (["proc", "cpuinfo"], "processor\t: 0\n"),
    (["proc", "filesystems"], "nodev\tsysfs\n"),
    (["proc", "loadavg"], "0.00 0.00 0.00 1/1 1\n"),
    (["proc", "meminfo"], "MemTotal:        1024 kB\n"),
    (["proc", "stat"], "cpu  0 0 0 0 0 0 0 0 0 0\n"),
    (["proc", "uptime"], "1.00 1.00\n"),
    (["proc", "version"], "Linux version 6.1.0\n"),
    (["proc", "self", "cgroup"], "0::/\n"),
    (["proc", "self", "cmdline"], "tayf\x00"),
    (["proc", "self", "comm"], "tayf\n"),
    (["proc", "self", "environ"], "RUST_LOG=off\x00"),
    (["proc", "self", "io"], "rchar: 0\n"),
    (["proc", "self", "limits"], "Limit                     Soft Limit\n"),
    (["proc", "self", "loginuid"], "4294967295"),
    (["proc", "self", "maps"], "00400000-00401000 r-xp 00000000 00:00 0\n"),
    (["proc", "self", "mountinfo"], "1 0 0:1 / / rw - overlay overlay rw\n"),
    (["proc", "self", "mounts"], "overlay / overlay rw 0 0\n"),
    (["proc", "self", "oom_score"], "0\n"),
    (["proc", "self", "oom_score_adj"], "0\n"),
    (["proc", "self", "sched"], "tayf (1, #threads: 1)\n"),
    (["proc", "self", "schedstat"], "0 0 0\n"),
    (["proc", "self", "sessionid"], "4294967295"),
    (["proc", "self", "setgroups"], "allow\n"),
    (["proc", "self", "smaps"], "00400000-00401000 r-xp 00000000 00:00 0\n"),
    (["proc", "self", "stat"], "1 (tayf) R 0\n"),
    (["proc", "self", "statm"], "0 0 0 0 0 0 0\n"),
    (["proc", "self", "status"], "Name:\ttayf\n"),
    (["proc", "self", "uid_map"], "         0          0 4294967295\n"),
    (["proc", "self", "gid_map"], "         0          0 4294967295\n"),
    (["proc", "self", "wchan"], "0")]

/-- The host's regular files a run may name: `/dev/null` is empty, the running program
and its auxiliary vector are not text, and the system tables are text. -/
def hostFiles : List (List String × Content) :=
  [(["dev", "null"], .text ""), (["proc", "self", "exe"], .binary),
    (["proc", "self", "auxv"], .binary)] ++
    systemTables.map fun (p, t) => (p, .text t)

/-- The regular file at a location, if any. -/
def fileAt (fs : Files) (l : Location) : Option Content :=
  match fs.entries.find? (fun (p, _) => Location.ofPath p == l), l with
  | some (_, content), _ => some (.text content)
  | none, .host cs => (hostFiles.find? (·.1 == cs)).map (·.2)
  | none, .work _ => none

/-- Whether a directory stands at a location: one of the host's, one made during the
run, or one with a stored file below it. -/
def isDirAt (fs : Files) (l : Location) : Bool :=
  fs.made.contains l || fs.entries.any (fun (p, _) => (Location.ofPath p).below l) ||
    match l with
    | .host cs => hostDirs.contains cs
    | .work _ => false

/-- Where a walk along a path stands: in a directory, or on a regular file. -/
inductive Place where
  | dir (l : Location)
  | onFile (content : Content)

/-- What stands at a location, following a link. -/
def resolve (fs : Files) (l : Location) : Option Place :=
  match l.link? with
  | some target => some (.dir target)
  | none =>
    match fs.fileAt l with
    | some content => some (.onFile content)
    | none => if fs.isDirAt l then some (.dir l) else none

/-- One step of a walk. -/
def step (fs : Files) : Place → String → Except OsError Place
  | .onFile _, _ => .error .notADirectory
  | p, "" => .ok p
  | p, "." => .ok p
  | .dir l, ".." => .ok (.dir l.parent)
  | .dir l, name =>
    if nameLimit < name.utf8ByteSize then .error .nameTooLong
    else
      match fs.resolve (l.child name) with
      | some q => .ok q
      | none => .error .notFound

/-- Where a walk starts: the root for an absolute path, else the working directory. -/
def start (path : String) : Place :=
  if path.startsWith "/" then .dir (.host []) else .dir (.work [])

/-- Why a path is refused before it is walked: a NUL byte, emptiness or length. -/
def refusal? (path : String) : Option OsError :=
  if path.contains '\x00' then some .nulInPath
  else if path.isEmpty then some .notFound
  else if pathLimit ≤ path.utf8ByteSize then some .nameTooLong
  else none

/-- Where a path leads. -/
def walk (fs : Files) (path : String) : Except OsError Place :=
  match refusal? path with
  | some e => .error e
  | none => (path.splitOn "/").foldlM fs.step (start path)

/-- What a path names. -/
def lookup (fs : Files) (path : String) : FileLookup :=
  match fs.walk path with
  | .ok (.onFile content) => .file content
  | .ok (.dir _) => .directory
  | .error e => .failed e

/-- Whether a path names a file or a directory. -/
def present (fs : Files) (path : String) : Bool :=
  match fs.lookup path with
  | .failed _ => false
  | _ => true

/-- The text of the regular file a path names. -/
def read (fs : Files) (path : String) : Except OsError String :=
  match fs.lookup path with
  | .file (.text content) => .ok content
  | .file .binary => .error .invalidUtf8
  | .directory => .error .isDirectory
  | .failed e => .error e

/-- One step of making a directory: a step of a walk, where a missing directory is
made. -/
def makeStep (acc : Files × Place) (name : String) : Except OsError (Files × Place) :=
  let (fs, p) := acc
  match fs.step p name, p with
  | .error .notFound, .dir l =>
    let l := l.child name
    if l.isSealed then .error .permissionDenied
    else .ok ({ fs with made := fs.made ++ [l] }, .dir l)
  | .error e, _ => .error e
  | .ok q, _ => .ok (fs, q)

/-- Makes a directory at a path, with its missing parents: the files with the new
directories and where the directory is, or why it cannot be made. -/
def makeDir (fs : Files) (path : String) : Except OsError (Files × Location) :=
  match refusal? path with
  | some e => .error e
  | none =>
    match (path.splitOn "/").foldlM makeStep (fs, start path) with
    | .error e => .error e
    | .ok (_, .onFile _) => .error .alreadyExists
    | .ok (fs, .dir l) => .ok (fs, l)

theorem read_nul (fs : Files) (path : String) (h : path.contains '\x00' = true) :
    fs.read path = .error .nulInPath := by
  simp [read, lookup, walk, refusal?, h]

end Files

end SpaceTeamSite
