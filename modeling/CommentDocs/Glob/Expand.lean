import CommentDocs.Disk.Basic
import CommentDocs.Glob.Pattern

/-!
# CommentDocs.Glob.Expand

The files that a path pattern names. A pattern is expanded component by component from the current
directory, or from the root if it starts with a slash. A component of plain characters is looked up,
any other is held against the names in each directory reached so far.
-/

namespace CommentDocs
namespace Glob

inductive Step where
  | exactly (name : Text)
  | fitting (tokens : List Token)
  | directories
deriving DecidableEq

namespace Step

def ofTokens (tokens : List Token) : Step :=
  match plain? tokens with
  | some name => .exactly name
  | none => if tokens = [.anyDirectories] then .directories else .fitting tokens

def accepts (name : Text) : Step → Bool
  | .exactly n => name = n
  | .fitting tokens => fits tokens name
  | .directories => true

end Step

/-- The path of a place below the directory `p`; a path below the current directory is written
without it. -/
def under (p : Path) : List Text → Path
  | [] => p
  | name :: names => names.foldl Path.join (if p.isHere then name else p.join name)

/-- The directory entries for itself and its parent, as far as they fit; only a pattern that starts
with a dot fits them. -/
def dotEntries (tokens : List Token) (p : Path) : List Path :=
  if tokens.head? = some (.char '.') then
    ([".", ".."] : List Text).filterMap fun name =>
      if fits tokens name then some (p.join name) else none
  else []

def descendants (d : Disk) (p : Path) : List (Text × Path) :=
  match d.resolve p with
  | .error _ => []
  | .ok loc => (d.below loc).map fun names => (names.getLastD [], under p names)

def follow (d : Disk) : List Step → Path → List Path
  | [], p => [p]
  | .exactly name :: rest, p =>
    let next := if p.isHere then name else p.join name
    let found := if name = "." ∨ name = ".." then d.isDir p else d.exists? next
    if found then follow d rest next else []
  | .fitting tokens :: rest, p =>
    if d.isDir p then
      let entries := (d.names p).filter (fits tokens)
      (entries.map (fun name => under p [name]) ++ dotEntries tokens p).flatMap (follow d rest)
    else []
  | .directories :: [], p =>
    ((descendants d p).map Prod.snd).filter d.isDir
  | .directories :: .directories :: rest, p => follow d (.directories :: rest) p
  | .directories :: step :: rest, p =>
    ((descendants d p).filter fun (name, _) => step.accepts name).flatMap fun (_, q) =>
      follow d rest q

/-- The components of a path pattern. A slash at the end opens none; a pattern without any has an
empty one. -/
def componentTexts (pattern : Path) : List Text :=
  let relative : Path := if pattern.isAbsolute then pattern.drop 1 else pattern
  let pieces := relative.segments
  if relative = [] then [[]]
  else if pieces.getLast? = some [] then pieces.dropLast
  else pieces

def readSteps : List Text → Except PatternError (List Step)
  | [] => .ok []
  | t :: ts =>
    match read t with
    | .error e => .error e
    | .ok tokens =>
      match readSteps ts with
      | .error e => .error e
      | .ok steps => .ok (Step.ofTokens tokens :: steps)

/-- The files that a path pattern names. A malformed pattern is refused as a whole before its
components are looked at; one that ends in a slash asks for directories and names no file. -/
def files (d : Disk) (pattern : Path) : Except PatternError (List Path) :=
  match read pattern with
  | .error e => .error e
  | .ok _ =>
    match readSteps (componentTexts pattern) with
    | .error e => .error e
    | .ok steps =>
      if pattern.getLast? = some '/' then .ok []
      else .ok ((follow d steps (if pattern.isAbsolute then "/" else ".")).filter d.isFile)

end Glob
end CommentDocs
