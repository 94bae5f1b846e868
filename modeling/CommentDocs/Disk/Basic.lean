import Std.Data.ExtTreeMap
import CommentDocs.Disk.FileError
import CommentDocs.Disk.Path

/-!
# CommentDocs.Disk.Basic

A file system as a value: a finite map from locations, the names on the way down from the root, to
directories and files, with a current directory. There are no links and no permissions.

A path is resolved name by name. `resolve` says where it leads; the operations that change the disk
give the disk afterwards. A file holds text, or bytes that are no UTF-8 text.
-/

namespace CommentDocs

inductive Contents where
  | text (t : Text)
  | binary (bytes : List UInt8)
deriving DecidableEq

/-- The names on the way down from the root. -/
abbrev Location := List Text

inductive DiskNode where
  | dir
  | file (contents : Contents)
deriving DecidableEq

structure Disk where
  nodes : Std.ExtTreeMap Location DiskNode
  current : Location
deriving DecidableEq

def Contents.ofBytes (bytes : ByteArray) : Contents :=
  match String.fromUTF8? bytes with
  | some s => .text s.toList
  | none => .binary bytes.toList

namespace Disk

/-! ## Lookup -/

/-- What is at a location; the root is always a directory. -/
def node? (d : Disk) (loc : Location) : Option DiskNode :=
  if loc = [] then some .dir else d.nodes[loc]?

/-- The longest name and the first path length that are refused, in bytes. -/
def maxNameLength : Nat := 255

def pathLengthLimit : Nat := 4096

def walk (d : Disk) (loc : Location) : List Text → Except FileError Location
  | [] => .ok loc
  | segment :: rest =>
    if d.node? loc ≠ some .dir then .error .notDirectory
    else if segment = [] ∨ segment = "." then d.walk loc rest
    else if segment = ".." then d.walk loc.dropLast rest
    else if maxNameLength < Text.byteLength segment then .error .nameTooLong
    else if d.node? (loc ++ [segment]) = none then .error .notFound
    else d.walk (loc ++ [segment]) rest

def start (d : Disk) (p : Path) : Location := if p.isAbsolute then [] else d.current

/-- Why a path is refused whatever is on the disk. -/
def refusal? (p : Path) : Option FileError :=
  if '\x00' ∈ p then some .nulInName
  else if p = [] then some .notFound
  else if pathLengthLimit ≤ Text.byteLength p then some .nameTooLong
  else none

def resolve (d : Disk) (p : Path) : Except FileError Location :=
  match refusal? p with
  | some e => .error e
  | none => d.walk (d.start p) p.segments

def lookup? (d : Disk) (p : Path) : Option DiskNode :=
  match d.resolve p with
  | .ok loc => d.node? loc
  | .error _ => none

def exists? (d : Disk) (p : Path) : Bool := (d.lookup? p).isSome

def isDir (d : Disk) (p : Path) : Bool := d.lookup? p = some .dir

def isFile (d : Disk) (p : Path) : Bool :=
  match d.lookup? p with
  | some (.file _) => true
  | _ => false

def readText (d : Disk) (p : Path) : Except FileError Text :=
  match d.resolve p with
  | .error e => .error e
  | .ok loc =>
    match d.node? loc with
    | none => .error .notFound
    | some .dir => .error .isDirectory
    | some (.file (.binary _)) => .error .notUtf8
    | some (.file (.text t)) => .ok t

/-- The names on the way down from a location to each place below it. -/
def below (d : Disk) (loc : Location) : List Location :=
  d.nodes.keys.filterMap fun k =>
    if loc.isPrefixOf k ∧ k ≠ loc then some (k.drop loc.length) else none

def names (d : Disk) (p : Path) : List Text :=
  match d.resolve p with
  | .error _ => []
  | .ok loc =>
    (d.below loc).filterMap fun
      | [name] => some name
      | _ => none

/-! ## Change -/

def putDir (d : Disk) (loc : Location) : Disk := { d with nodes := d.nodes.insert loc .dir }

def putFile (d : Disk) (loc : Location) (contents : Contents) : Disk :=
  { d with nodes := d.nodes.insert loc (.file contents) }

theorem node?_putDir (d : Disk) (loc k : Location) :
    (d.putDir loc).node? k = if loc = k then some .dir else d.node? k := by
  simp only [putDir, node?, Std.ExtTreeMap.getElem?_insert, Std.LawfulEqOrd.compare_eq_iff_eq]
  by_cases hk : k = []
  · simp [hk]
  · simp [hk]

theorem node?_putFile (d : Disk) (loc k : Location) (contents : Contents) (h : loc ≠ []) :
    (d.putFile loc contents).node? k = if loc = k then some (.file contents) else d.node? k := by
  simp only [putFile, node?, Std.ExtTreeMap.getElem?_insert, Std.LawfulEqOrd.compare_eq_iff_eq]
  by_cases hk : k = []
  · subst hk
    simp [h]
  · simp [hk]

/-- Puts a directory at a location and at every location above it. -/
def putDirs (d : Disk) (loc : Location) : Disk :=
  (List.range loc.length).foldl (fun d n => d.putDir (loc.take (n + 1))) d

def blank (current : Location) : Disk := Disk.putDirs ⟨∅, current⟩ current

/-- Where the last segment of a path is to be looked up. -/
def parent (d : Disk) (p : Path) (segments : List Text) : Except FileError Location :=
  match refusal? p with
  | some e => .error e
  | none =>
    match d.walk (d.start p) segments.dropLast with
    | .error e => .error e
    | .ok loc => if d.node? loc = some .dir then .ok loc else .error .notDirectory

def makeDir (d : Disk) (p : Path) : Except FileError Disk :=
  let segments := (p.segments.reverse.dropWhile (· = [])).reverse
  match d.parent p segments with
  | .error e => .error e
  | .ok loc =>
    match segments.getLast? with
    | none => .error .alreadyExists
    | some name =>
      if name = "." ∨ name = ".." then .error .alreadyExists
      else if maxNameLength < Text.byteLength name then .error .nameTooLong
      else if d.node? (loc ++ [name]) ≠ none then .error .alreadyExists
      else .ok (d.putDir (loc ++ [name]))

/-- Makes the first directory of a list, whose other members are the directories above it, the
innermost first. These are made only if the first cannot be made without them, and remain if it
cannot be made in the end. -/
def makeDirFrom (d : Disk) : List Path → Option FileError × Disk
  | [] => (none, d)
  | p :: above =>
    match d.makeDir p with
    | .ok d => (none, d)
    | .error .notFound =>
      match d.makeDirFrom above with
      | (some e, d) => (some e, d)
      | (none, d) =>
        match d.makeDir p with
        | .ok d => (none, d)
        | .error e => (if d.isDir p then none else some e, d)
    | .error e => (if d.isDir p then none else some e, d)

def makeDirs (d : Disk) (p : Path) : Option FileError × Disk := d.makeDirFrom (p :: p.parents)

def write (d : Disk) (p : Path) (t : Text) : Except FileError Disk :=
  match d.parent p p.segments with
  | .error e => .error e
  | .ok loc =>
    let name := p.segments.getLastD []
    if name = [] ∨ name = "." ∨ name = ".." then .error .isDirectory
    else if maxNameLength < Text.byteLength name then .error .nameTooLong
    else if d.node? (loc ++ [name]) = some .dir then .error .isDirectory
    else .ok (d.putFile (loc ++ [name]) (.text t))

/-- The places of a disk where another one holds nothing or something else, with what they hold. -/
def changes (before after : Disk) : List (Location × DiskNode) :=
  after.nodes.toList.filter fun (loc, node) => before.nodes[loc]? ≠ some node

end Disk
end CommentDocs
