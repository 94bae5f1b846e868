import CommentDocs.Builder
import CommentDocs.Disk.Basic
import CommentDocs.Glob.Expand
import CommentDocs.Page.PageSet
import CommentDocs.Run.Failure

/-!
# CommentDocs.Run.Sources

What a run takes from the disk: fragments, page templates, and the source files that its arguments
name.
-/

namespace CommentDocs

/-- The fragments that are files of a directory. One that cannot be read is reported and counts as
missing. -/
def Fragments.ofDir (d : Disk) (dir : Path) : Fragments := fun name =>
  let path := dir.join name
  match d.readText path with
  | .ok t => (some t, [])
  | .error e => (.none, [.fragmentUnreadable path e])

def Fragments.ofOption (d : Disk) : Option Path → Fragments
  | .none => Fragments.none
  | some dir => Fragments.ofDir d dir

namespace PageSet

/-- Inserts the pages of some specifications, with the templates that they name. The first
specification that is malformed or names no readable template is the failure. -/
def insertSpecs (d : Disk) (ps : PageSet) : List Text → Except Failure PageSet
  | [] => .ok ps
  | spec :: rest =>
    match Page.readSpec spec with
    | none => .error (.badPageSpec spec)
    | some (name, path) =>
      match d.readText path with
      | .error e => .error (.templateUnreadable path e)
      | .ok template => insertSpecs d (ps.insert name template) rest

def ofSpecs (d : Disk) (specs : List Text) : Except Failure PageSet := insertSpecs d empty specs

end PageSet

namespace Source

def extensions : List Text := ["js", "mjs", "cjs"]

def hasExtension (p : Path) : Bool :=
  match p.extension? with
  | none => false
  | some extension => extensions.contains extension

/-- The source files in a directory, not those further down. -/
def inDirectory (d : Disk) (dir : Path) : List Path :=
  ((d.names dir).map dir.join).filter fun p => d.isFile p && hasExtension p

/-- The files that an argument names: a file itself, the source files in a directory, or else the
files that fit a pattern. A disk has no permissions, so every directory on it can be listed, and
only a malformed pattern is a failure here. -/
def ofArgument (d : Disk) (arg : Path) : Except Failure (List Path × List Event) :=
  if d.isFile arg then .ok ([arg], [])
  else if d.isDir arg then .ok (inDirectory d arg, [])
  else
    match Glob.files d arg with
    | .error e => .error (.badPattern arg e)
    | .ok [] => .ok ([], [.patternUnmatched arg])
    | .ok paths => .ok (paths, [])

def ofArguments (d : Disk) : List Path → Except Failure (List Path) × List Event
  | [] => (.ok [], [])
  | arg :: args =>
    match ofArgument d arg with
    | .error f => (.error f, [])
    | .ok (paths, events) =>
      match ofArguments d args with
      | (.error f, more) => (.error f, events ++ more)
      | (.ok rest, more) => (.ok (paths ++ rest), events ++ more)

/-- The files that arguments name, in the order of paths and each once. -/
def files (d : Disk) (args : List Path) : Except Failure (List Path) × List Event :=
  match ofArguments d args with
  | (.error f, events) => (.error f, events)
  | (.ok paths, events) => (.ok (Path.arrange paths), events)

/-- Reads source files one after the other; one that cannot be read is reported and skipped. -/
def readFiles (d : Disk) (b : Builder) : List Path → Builder × List Event
  | [] => (b, [])
  | p :: ps =>
    match d.readText p with
    | .error e =>
      let (b, events) := readFiles d b ps
      (b, .inputSkipped p e :: events)
    | .ok source =>
      let (b, events) := b.read source
      let (b, more) := readFiles d b ps
      (b, .inputRead p :: events ++ more)

end Source
end CommentDocs
