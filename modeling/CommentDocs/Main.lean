import CommentDocs.Run

/-!
# CommentDocs.Main

The program at the command line. It takes a picture of the part of the file system that a run can
ask about, the tree below the current directory and whatever the arguments name outside it, lets
`Outcome.ofArguments` decide everything, and then carries out the changes.
-/

namespace CommentDocs
namespace Main

def absolute (loc : Location) : String := String.ofList ("/" ++ List.intercalate "/" loc)

/-- Adds a file to the picture; one that cannot be read is left out. -/
def loadFile (d : Disk) (loc : Location) : IO Disk := do
  try
    let bytes ← IO.FS.readBinFile (absolute loc)
    return d.putFile loc (.ofBytes bytes)
  catch _ => return d

/-- Adds everything below a directory to the picture. Links to directories are not followed. -/
partial def loadBelow (d : Disk) (loc : Location) : IO Disk := do
  let mut d := d
  for entry in ← ((← IO.currentDir) / absolute loc).readDir do
    let place := loc ++ [entry.fileName.toList]
    let info ← entry.path.symlinkMetadata
    if info.type == .dir then
      d ← loadBelow (d.putDir place) place
    else if !(← entry.path.isDir) then
      d ← loadFile d place
  return d

def load (d : Disk) (loc : Location) : IO Disk := do
  let place := (← IO.currentDir) / absolute loc
  if ← place.isDir then loadBelow (d.putDirs loc) loc
  else if ← place.pathExists then loadFile (d.putDirs loc.dropLast) loc
  else return d

/-- The location that a path leads to as far as it is spelled out in plain characters. -/
def plainLocation (current : Location) (p : Path) : Location :=
  let plain := p.segments.takeWhile fun s => !(s.any fun c => c = '*' || c = '?' || c = '[')
  plain.foldl
    (fun loc s =>
      if s = [] ∨ s = "." then loc else if s = ".." then loc.dropLast else loc ++ [s])
    (if p.isAbsolute then [] else current)

def mentioned (o : Options) : List Path :=
  o.files ++ o.output.toList ++ o.fragments.toList
    ++ o.pages.filterMap fun spec => (Page.readSpec spec).map Prod.snd

def picture (args : List Text) : IO Disk := do
  let current : Location := (Path.segments (← IO.currentDir).toString.toList).filter (· ≠ [])
  let mut d ← loadBelow (Disk.blank current) current
  match CommandLine.read args with
  | .run o =>
    for p in mentioned o do
      let loc := plainLocation current p
      if !current.isPrefixOf loc then
        d ← load d loc
    return d
  | _ => return d

def carryOut (before after : Disk) : IO Unit := do
  for (loc, node) in before.changes after do
    match node with
    | .dir => IO.FS.createDirAll (absolute loc)
    | .file (.text t) => IO.FS.writeFile (absolute loc) (String.ofList t)
    | .file (.binary bytes) => IO.FS.writeBinFile (absolute loc) ⟨bytes.toArray⟩

partial def readAll (stream : IO.FS.Stream) (read : ByteArray) : IO ByteArray := do
  let more ← stream.read 65536
  if more.isEmpty then return read else readAll stream (read ++ more)

/-- The standard input of a run; a run with files leaves it alone. -/
def input (args : List Text) : IO Contents := do
  match CommandLine.read args with
  | .run o =>
    if o.files = [] then return .ofBytes (← readAll (← IO.getStdin) .empty)
    else return .text []
  | _ => return .text []

end Main
end CommentDocs

open CommentDocs in
def main (args : List String) : IO UInt32 := do
  let args := args.map String.toList
  let before ← Main.picture args
  let setting := (← IO.getEnv "ANNODOC_LOG").map String.toList
  let outcome := Outcome.ofArguments before args (← Main.input args) setting
  Main.carryOut before outcome.disk
  (← IO.getStderr).putStr (String.ofList outcome.stderr)
  (← IO.getStdout).putStr (String.ofList outcome.stdout)
  return outcome.exitCode.toUInt32
