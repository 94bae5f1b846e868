import CommentDocs.Text.Basic

/-!
# CommentDocs.Run.Options

The command line. Options and files may be mixed; `--` ends the options. A long option takes its
value behind an equals sign or from the next argument, a short one also from the rest of its own
argument. A value from the next argument does not look like an option. All options but `--page` are
given at most once, and those that name a directory have a value that is not empty.
-/

namespace CommentDocs

/-- What a command line asks for. -/
structure Options where
  files : List Text
  output : Option Text
  format : Text
  pages : List Text
  fragments : Option Text
  verbose : Bool
deriving DecidableEq

inductive ValueOption where
  | output
  | format
  | page
  | fragments
deriving DecidableEq

def ValueOption.ofLong? (name : Text) : Option ValueOption :=
  if name = "output" then some .output
  else if name = "format" then some .format
  else if name = "page" then some .page
  else if name = "fragments" then some .fragments
  else none

def ValueOption.ofShort? : Char → Option ValueOption
  | 'o' => some .output
  | 'f' => some .format
  | _ => none

structure PartialOptions where
  files : List Text
  output : Option Text
  format : Option Text
  pages : List Text
  fragments : Option Text
  verbose : Bool
deriving DecidableEq

inductive CommandLine where
  | help
  | usageError
  | run (options : Options)
deriving DecidableEq

namespace PartialOptions

def none : PartialOptions :=
  { files := [], output := .none, format := .none, pages := [], fragments := .none,
    verbose := false }

/-- Gives an option its value; `none` if that option has one already or takes no such value. -/
def set? (o : PartialOptions) (option : ValueOption) (value : Text) : Option PartialOptions :=
  match option with
  | .output =>
    if o.output ≠ .none ∨ value = [] then .none else some { o with output := some value }
  | .format => if o.format ≠ .none then .none else some { o with format := some value }
  | .page => some { o with pages := o.pages ++ [value] }
  | .fragments =>
    if o.fragments ≠ .none ∨ value = [] then .none else some { o with fragments := some value }

def setVerbose? (o : PartialOptions) : Option PartialOptions :=
  if o.verbose then .none else some { o with verbose := true }

def addFile (o : PartialOptions) (file : Text) : PartialOptions :=
  { o with files := o.files ++ [file] }

def complete (o : PartialOptions) : Options :=
  { files := o.files, output := o.output, format := o.format.getD "html", pages := o.pages,
    fragments := o.fragments, verbose := o.verbose }

end PartialOptions

namespace CommandLine

/-- What reading one argument comes to. -/
inductive Reading where
  | done (o : PartialOptions)
  /-- The next argument is the value of an option. -/
  | expects (option : ValueOption) (o : PartialOptions)
  | help
  | usageError

def Reading.ofOption : Option PartialOptions → Reading
  | some o => .done o
  | none => .usageError

def long (o : PartialOptions) (t : Text) : Reading :=
  let (name, value) :=
    match Text.splitOnce '=' t with
    | some (name, value) => (name, some value)
    | none => (t, none)
  match ValueOption.ofLong? name, value with
  | some option, some value => .ofOption (o.set? option value)
  | some option, none => .expects option o
  | none, some _ => .usageError
  | none, none =>
    if name = "verbose" then .ofOption o.setVerbose?
    else if name = "help" then .help
    else .usageError

def short (o : PartialOptions) : Text → Reading
  | [] => .done o
  | c :: t =>
    match ValueOption.ofShort? c with
    | some option =>
      match t with
      | [] => .expects option o
      | '=' :: value => .ofOption (o.set? option value)
      | value => .ofOption (o.set? option value)
    | none =>
      if c = 'v' then
        match o.setVerbose? with
        | some o => short o t
        | none => .usageError
      else if c = 'h' then .help
      else .usageError

/-- Whether an argument is an option rather than a value or a file. -/
def looksLikeOption : Text → Bool
  | '-' :: _ :: _ => true
  | _ => false

def argument (o : PartialOptions) : Text → Reading
  | '-' :: '-' :: t => long o t
  | '-' :: c :: t => short o (c :: t)
  | file => .done (o.addFile file)

/-- Reads arguments after those that have been read into `o`; `pending` is an option that still
waits for its value. -/
def readFrom (o : PartialOptions) (pending : Option ValueOption) : List Text → CommandLine
  | [] =>
    match pending with
    | none => .run o.complete
    | some _ => .usageError
  | arg :: args =>
    match pending with
    | some option =>
      if looksLikeOption arg then .usageError
      else
        match o.set? option arg with
        | some o => readFrom o none args
        | none => .usageError
    | none =>
      if arg = "--" then .run (args.foldl PartialOptions.addFile o).complete
      else
        match argument o arg with
        | .done o => readFrom o none args
        | .expects option o => readFrom o (some option) args
        | .help => .help
        | .usageError => .usageError

def read (args : List Text) : CommandLine := readFrom .none none args

end CommandLine
end CommentDocs
