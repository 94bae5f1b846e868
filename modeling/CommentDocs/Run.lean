import CommentDocs.Log.Line
import CommentDocs.Run.Options
import CommentDocs.Run.Sources

/-!
# CommentDocs.Run

A run of the program, as a function of the disk, the command line, the standard input and the log
setting.

Without files, the run documents its standard input and prints the default page; it leaves the disk
alone. With files, it first makes a plan (`Job.plan`), which reads the disk and does everything that
can fail because of the command line, and only then makes the output directory and writes the pages.
-/

namespace CommentDocs

/-- How a run ends: the text for the standard output or a failure, what there is to report, and the
disk afterwards. -/
structure Run where
  result : Except Failure Text
  events : List Event
  disk : Disk

/-- What a run with files is going to do. -/
structure Job where
  output : Path
  format : Format
  pages : PageSet
  fragments : Option Path
  files : List Path

namespace Job

def formatOf (name : Text) : Except Failure Format :=
  match Format.ofName? name with
  | none => .error (.unknownFormat name)
  | some format => .ok format

def pagesOf (d : Disk) (format : Format) (specs : List Text) : Except Failure PageSet :=
  if specs = [] then .ok (.defaultFor format) else PageSet.ofSpecs d specs

def plan (d : Disk) (o : Options) : Except Failure Job × List Event :=
  match o.output with
  | none => (.error .outputMissing, [])
  | some output =>
    match formatOf o.format with
    | .error f => (.error f, [])
    | .ok format =>
      match pagesOf d format o.pages with
      | .error f => (.error f, [])
      | .ok pages =>
        match Source.files d o.files with
        | (.error f, events) => (.error f, events)
        | (.ok files, events) =>
          (.ok { output, format, pages, fragments := o.fragments, files }, events)

def pagePath (job : Job) (name : Text) : Path :=
  job.output.join (name ++ "." ++ job.format.extension)

/-- Writes pages one after the other, up to the first that cannot be written. -/
def write (job : Job) (d : Disk) : List (Text × Text) → Option Failure × List Event × Disk
  | [] => (none, [], d)
  | (name, text) :: rest =>
    let path := job.pagePath name
    match d.write path text with
    | .error e => (some (.pageNotWritten path e), [], d)
    | .ok d =>
      let (failure, events, d) := job.write d rest
      (failure, .pageWritten name path :: events, d)

def read (job : Job) (d : Disk) : Namespace × List Event :=
  let (b, events) := Source.readFiles d .empty job.files
  let found : List Event := if b.result.isEmpty then [.nothingFound] else []
  (b.result, events ++ found ++ [.inputsParsed b.result.size job.files.length])

/-- Does the job. All pages are filled in before the first is written. -/
def execute (job : Job) (d : Disk) : Run :=
  let (ns, parsed) := job.read d
  match d.makeDirs job.output with
  | (some e, d) => ⟨.error (.directoryNotMade job.output e), parsed, d⟩
  | (none, d) =>
    let (pages, filled) := job.pages.render job.format ns (.ofOption d job.fragments)
    match job.write d pages with
    | (some f, written, d) => ⟨.error f, parsed ++ filled ++ written, d⟩
    | (none, written, d) => ⟨.ok [], parsed ++ filled ++ written, d⟩

end Job

namespace Run

/-- A run that writes the documentation of files. -/
def ofFiles (d : Disk) (o : Options) : Run :=
  match Job.plan d o with
  | (.error f, events) => ⟨.error f, events, d⟩
  | (.ok job, events) =>
    let run := job.execute d
    { run with events := events ++ run.events }

/-- A run that prints the documentation of its standard input. -/
def ofInput (d : Disk) (o : Options) (input : Contents) : Run :=
  if o.pages ≠ [] then ⟨.error .pageWithoutFiles, [], d⟩
  else
    match input with
    | .binary _ => ⟨.error (.inputUnreadable .notUtf8), [], d⟩
    | .text source =>
      let (ns, events) := Namespace.ofSource source
      match Job.formatOf o.format with
      | .error f => ⟨.error f, events, d⟩
      | .ok format =>
        let (pages, filled) :=
          (PageSet.defaultFor format).render format ns (.ofOption d o.fragments)
        ⟨.ok (pages.flatMap Prod.snd), events ++ filled, d⟩

def ofOptions (d : Disk) (o : Options) (input : Contents) : Run :=
  if o.files = [] then ofInput d o input else ofFiles d o

end Run

/-! ## The whole program -/

/-- What the program leaves behind. -/
structure Outcome where
  exitCode : Nat
  stdout : Text
  stderr : Text
  disk : Disk

namespace Outcome

def usage : Text := "Usage: annodoc [OPTIONS] [FILES]...\n"

def help : Text :=
  "Generate HTML documentation from annotated block comments\n\n" ++ usage
    ++ "\nArguments:\n"
    ++ "  [FILES]...  Input files (glob patterns and directories supported). "
    ++ "If omitted, reads from stdin\n"
    ++ "\nOptions:\n"
    ++ "  -o, --output <OUTPUT>       Output directory (required when files are given)\n"
    ++ "  -f, --format <FORMAT>       Output format: html (default), json, markdown "
    ++ "[default: html]\n"
    ++ "      --page <NAME=TEMPLATE>  Page to generate, as NAME=TEMPLATE_FILE. "
    ++ "Can be specified multiple times. Templates may use %(include NAME), %(index) and "
    ++ "%(contents)\n"
    ++ "      --fragments <DIR>       Directory that %(include NAME) fragments are read from\n"
    ++ "  -v, --verbose               Log dropped annotations and other details to stderr\n"
    ++ "  -h, --help                  Print help\n"

/-- Logs the events of a run and reports its failure. -/
def ofRun (filter : Filter) (run : Run) : Outcome :=
  let log := filter.log run.events
  match run.result with
  | .ok text => { exitCode := 0, stdout := text, stderr := log, disk := run.disk }
  | .error f => { exitCode := 1, stdout := [], stderr := log ++ f.report, disk := run.disk }

def ofArguments (d : Disk) (args : List Text) (input : Contents) (logSetting : Option Text) :
    Outcome :=
  match CommandLine.read args with
  | .help => { exitCode := 0, stdout := help, stderr := [], disk := d }
  | .usageError => { exitCode := 2, stdout := [], stderr := usage, disk := d }
  | .run o => ofRun (Filter.choose logSetting o.verbose) (Run.ofOptions d o input)

end Outcome
end CommentDocs
