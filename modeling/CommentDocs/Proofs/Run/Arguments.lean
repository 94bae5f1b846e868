import CommentDocs.Proofs.Disk.Arrangement
import CommentDocs.Proofs.Disk.Places
import CommentDocs.Proofs.Run.Faults

/-!
# CommentDocs.Proofs.Run.Arguments

The arguments of a run with files are a set. `Source.Names` says which files an argument stands for:
itself, the source files in a directory, or what fits a pattern. The source files of a run are all
of these in the order of paths, each once under one of its spellings (`Source.Listing`), so neither
the order nor the repetitions of the arguments matter (`Outcome.arguments_as_set`).

Another order of the arguments may pick another spelling of a path. Both spellings lead to the same
file, so what is read depends only on the components (`Source.contents_eq`), and a job depends on
its files only through what is read from them (`Job.execute_files`).

Reading a file twice would double what it says about parameters. `Source.sources_readFiles` reads
the files that have been gone through off the events, so that each path of a listing is read once.
-/

namespace CommentDocs
namespace Source

variable {d : Disk} {arg p : Path} {args args' paths paths' : List Path}

/-! ## What arguments stand for -/

/-- The files that an argument stands for. -/
inductive Names (d : Disk) (arg : Path) : Path → Prop where
  | file (h : d.isFile arg = true) : Names d arg arg
  | member {name : Text} (hfile : d.isFile arg = false) (hdir : d.isDir arg = true)
      (hname : name ∈ d.names arg) (his : d.isFile (arg.join name) = true)
      (hextension : hasExtension (arg.join name) = true) : Names d arg (arg.join name)
  | fitting {p : Path} {paths : List Path} (hfile : d.isFile arg = false)
      (hdir : d.isDir arg = false) (hpaths : Glob.files d arg = .ok paths) (h : p ∈ paths) :
      Names d arg p

theorem isFile_of_mem_globFiles (hpaths : Glob.files d arg = .ok paths) (h : p ∈ paths) :
    d.isFile p = true := by
  rw [Glob.files] at hpaths
  split at hpaths
  · cases hpaths
  · split at hpaths
    · cases hpaths
    · split at hpaths
      · cases hpaths
        cases h
      · cases hpaths
        exact (List.mem_filter.1 h).2

theorem Names.isFile (h : Names d arg p) : d.isFile p = true := by
  cases h with
  | file h => exact h
  | member _ _ _ his _ => exact his
  | fitting _ _ hpaths h => exact isFile_of_mem_globFiles hpaths h

theorem mem_inDirectory : p ∈ inDirectory d arg ↔
    ∃ name ∈ d.names arg, arg.join name = p ∧ d.isFile p = true ∧ hasExtension p = true := by
  simp only [inDirectory, List.mem_filter, List.mem_map, Bool.and_eq_true]
  constructor
  · rintro ⟨⟨name, hname, rfl⟩, h⟩
    exact ⟨name, hname, rfl, h⟩
  · rintro ⟨name, hname, rfl, h⟩
    exact ⟨⟨name, hname, rfl⟩, h⟩

theorem names_of_isFile (h : d.isFile arg = true) : Names d arg p ↔ p = arg := by
  constructor
  · intro hp
    cases hp with
    | file => rfl
    | member hfile => rw [hfile] at h; cases h
    | fitting hfile => rw [hfile] at h; cases h
  · rintro rfl
    exact .file h

theorem names_of_isDir (hfile : d.isFile arg = false) (hdir : d.isDir arg = true) :
    Names d arg p ↔ p ∈ inDirectory d arg := by
  rw [mem_inDirectory]
  constructor
  · intro hp
    cases hp with
    | file h => rw [h] at hfile; cases hfile
    | member _ _ hname his hextension => exact ⟨_, hname, rfl, his, hextension⟩
    | fitting _ hno => rw [hno] at hdir; cases hdir
  · rintro ⟨name, hname, rfl, his, hextension⟩
    exact .member hfile hdir hname his hextension

theorem names_of_pattern (hfile : d.isFile arg = false) (hdir : d.isDir arg = false)
    (hpaths : Glob.files d arg = .ok paths) : Names d arg p ↔ p ∈ paths := by
  constructor
  · intro hp
    cases hp with
    | file h => rw [h] at hfile; cases hfile
    | member _ h => rw [h] at hdir; cases hdir
    | fitting _ _ hpaths' hp =>
      rw [hpaths] at hpaths'
      cases hpaths'
      exact hp
  · exact .fitting hfile hdir hpaths

theorem mem_ofArgument {events : List Event} (h : ofArgument d arg = .ok (paths, events)) :
    p ∈ paths ↔ Names d arg p := by
  rw [ofArgument] at h
  split at h
  · rename_i hfile; cases h
    rw [names_of_isFile hfile, List.mem_singleton]
  · rename_i hfile
    have hfile : d.isFile arg = false := by simpa using hfile
    split at h
    · rename_i hdir; cases h
      rw [names_of_isDir hfile hdir]
    · rename_i hdir
      have hdir : d.isDir arg = false := by simpa using hdir
      split at h
      · cases h
      · rename_i hpaths; cases h
        rw [names_of_pattern hfile hdir hpaths]
      · rename_i hpaths; cases h
        rw [names_of_pattern hfile hdir hpaths]

theorem mem_ofArguments (h : (ofArguments d args).1 = .ok paths) :
    p ∈ paths ↔ ∃ arg ∈ args, Names d arg p := by
  induction args generalizing paths with
  | nil =>
    cases h
    simp
  | cons arg args ih =>
    rw [ofArguments] at h
    split at h
    · cases h
    · rename_i first events hfirst
      split at h
      · cases h
      · rename_i rest more hrest; cases h
        rw [List.mem_append, mem_ofArgument hfirst, ih (by rw [hrest]), List.exists_mem_cons_iff]

/-! ## The files of a run -/

/-- What the files of a run are, given the arguments: in strict order of paths, so that no path is
there twice, each of them named by an argument, and all that are named. -/
structure Listing (d : Disk) (args paths : List Path) : Prop where
  increasing : paths.Pairwise fun p q => Path.order p q = .lt
  once : (paths.map Path.components).Nodup
  named : ∀ p ∈ paths, ∃ arg ∈ args, Names d arg p
  all : ∀ arg ∈ args, ∀ p, Names d arg p → ∃ q ∈ paths, q.components = p.components

theorem listing_of_files (h : (files d args).1 = .ok paths) : Listing d args paths := by
  rw [files_eq] at h
  cases hnamed : (ofArguments d args).1 with
  | error f => rw [hnamed] at h; cases h
  | ok named =>
    rw [hnamed] at h
    cases h
    have hincreasing := Path.increasing_arrange named
    refine ⟨hincreasing, ?_, fun p hp => ?_, fun arg harg p hp => ?_⟩
    · refine List.pairwise_map.2 (hincreasing.imp fun hlt heq => ?_)
      rw [Path.order_eq_eq.2 heq] at hlt
      cases hlt
    · exact (mem_ofArguments hnamed).1 (Path.mem_of_mem_arrange hp)
    · exact Path.exists_mem_arrange ((mem_ofArguments hnamed).2 ⟨arg, harg, hp⟩)

theorem exists_files_iff :
    (∃ paths, (files d args).1 = .ok paths) ↔ ∀ arg ∈ args, ∀ f, ¬ArgumentFault d arg f := by
  rw [files_eq]
  cases hnamed : (ofArguments d args).1 with
  | error f =>
    obtain ⟨arg, harg, hf⟩ := argumentFault_of_ofArguments hnamed
    constructor
    · rintro ⟨_, ⟨⟩⟩
    · intro hnone
      exact absurd hf (hnone arg harg f)
  | ok named =>
    refine ⟨fun _ arg harg f => ?_, fun _ => ⟨_, rfl⟩⟩
    exact not_argumentFault_of_ofArguments hnamed arg harg

namespace Listing

theorem isFile (h : Listing d args paths) : ∀ p ∈ paths, d.isFile p = true := by
  intro p hp
  obtain ⟨arg, _, hnames⟩ := h.named p hp
  exact hnames.isFile

theorem mem_components (h : Listing d args paths) (h' : Listing d args' paths')
    (hset : ∀ arg, arg ∈ args ↔ arg ∈ args') {cs : List Path.Component}
    (hcs : cs ∈ paths.map Path.components) : cs ∈ paths'.map Path.components := by
  obtain ⟨p, hp, rfl⟩ := List.mem_map.1 hcs
  obtain ⟨arg, harg, hnames⟩ := h.named p hp
  obtain ⟨q, hq, hqp⟩ := h'.all arg ((hset arg).1 harg) p hnames
  exact List.mem_map.2 ⟨q, hq, hqp⟩

/-- A set of arguments has only one listing, up to the spelling of its paths. -/
theorem map_components_eq (h : Listing d args paths) (h' : Listing d args' paths')
    (hset : ∀ arg, arg ∈ args ↔ arg ∈ args') :
    paths.map Path.components = paths'.map Path.components := by
  refine Sorting.eq_of_increasing ?_ ?_ fun cs => ⟨?_, ?_⟩
  · exact List.pairwise_map.2 h.increasing
  · exact List.pairwise_map.2 h'.increasing
  · exact h.mem_components h' hset
  · exact h'.mem_components h fun arg => (hset arg).symm

end Listing

/-! ## Reading them -/

/-- What is read from files depends on where their paths lead, not on how they are spelled. -/
theorem contents_eq (hpaths : ∀ p ∈ paths, d.isFile p = true)
    (hpaths' : ∀ p ∈ paths', d.isFile p = true)
    (h : paths.map Path.components = paths'.map Path.components) :
    contents d paths = contents d paths' := by
  induction paths generalizing paths' with
  | nil =>
    cases List.map_eq_nil_iff.1 h.symm
    rfl
  | cons p paths ih =>
    cases paths' with
    | nil => cases h
    | cons q paths' =>
      rw [List.map_cons, List.map_cons, List.cons.injEq] at h
      obtain ⟨hp, hrest⟩ := List.forall_mem_cons.1 hpaths
      obtain ⟨hq, hrest'⟩ := List.forall_mem_cons.1 hpaths'
      have hread := Disk.readText_eq_of_components_eq hp hq h.1
      have htail := ih hrest hrest' h.2
      simp only [contents] at htail ⊢
      rw [List.filterMap_cons, List.filterMap_cons, hread, htail]

end Source

def Event.source? : Event → Option Path
  | .inputSkipped p _ => some p
  | .inputRead p => some p
  | _ => none

namespace Builder

variable {b : Builder} {a : Remark}

theorem sources_inEntity (change : Entity → Entity) (member : Option Member → Option Member) :
    (b.inEntity a change member).2.filterMap Event.source? = [] := by
  rw [inEntity]
  split <;> rfl

theorem sources_inMember {refuse : Method → Option Event} {change : Method → Method}
    (hrefuse : ∀ m e, refuse m = some e → e.source? = none) :
    (b.inMember a refuse change).2.filterMap Event.source? = [] := by
  rw [inMember]
  split
  · rfl
  · split
    · rename_i e he
      exact List.filterMap_cons_none (hrefuse _ e he)
    · rfl

theorem sources_apply (b : Builder) (a : Remark) :
    (b.apply a).2.filterMap Event.source? = [] := by
  rw [apply]
  split
  · rfl
  · split
    · rfl
    · rw [declare]
      split <;> rfl
    · exact sources_inEntity _ _
    · exact sources_inEntity _ _
    · exact sources_inEntity _ _
    · exact sources_inMember fun m e he => by cases he
    · refine sources_inMember fun m e he => ?_
      split at he
      · cases he
        rfl
      · cases he

theorem sources_applyAll (b : Builder) (as : List Remark) :
    (b.applyAll as).2.filterMap Event.source? = [] := by
  induction as generalizing b with
  | nil => rfl
  | cons a as ih => simp only [applyAll, List.filterMap_append, sources_apply, ih, List.append_nil]

end Builder

theorem Source.sources_readFiles (d : Disk) (b : Builder) (paths : List Path) :
    (readFiles d b paths).2.filterMap Event.source? = paths := by
  induction paths generalizing b with
  | nil => rfl
  | cons p paths ih =>
    rw [readFiles]
    split
    · exact congrArg (p :: ·) (ih b)
    · rename_i source _
      have hquiet : (b.read source).2.filterMap Event.source? = [] := b.sources_applyAll _
      simp only [List.cons_append, List.filterMap_cons, Event.source?, List.filterMap_append,
        hquiet, List.nil_append, ih]

/-! ## Runs -/

theorem Options.Fault.of_files {d : Disk} {o : Options} {files : List Text} {f : Failure}
    (hset : ∀ arg, arg ∈ o.files ↔ arg ∈ files) (h : o.Fault d f) :
    { o with files := files }.Fault d f := by
  cases h with
  | output hnone => exact .output hnone
  | format hnone => exact .format hnone
  | page hspec hf => exact .page hspec hf
  | file harg hf => exact .file ((hset _).1 harg) hf

namespace Job

variable {d : Disk} {job job' : Job} {o : Options} {files : List Text}

theorem write_files (job : Job) (paths : List Path) (d : Disk) (pages : List (Text × Text)) :
    { job with files := paths }.write d pages = job.write d pages := by
  induction pages generalizing d with
  | nil => rfl
  | cons page pages ih => simp only [write, pagePath, ih]

/-- A job depends on its files only through what is read from them. -/
theorem execute_files {paths : List Path}
    (h : Source.contents d paths = Source.contents d job.files) :
    ({ job with files := paths }.execute d).result = (job.execute d).result ∧
      ({ job with files := paths }.execute d).disk = (job.execute d).disk := by
  have hread : ({ job with files := paths }.read d).1 = (job.read d).1 := by
    rw [read_eq, read_eq, h]
  rw [execute, execute]
  simp only [hread, write_files]
  split
  · exact ⟨rfl, rfl⟩
  · split <;> exact ⟨rfl, rfl⟩

theorem plan_files (hset : ∀ arg, arg ∈ o.files ↔ arg ∈ files) (h : (plan d o).1 = .ok job)
    (h' : (plan d { o with files := files }).1 = .ok job') :
    job' = { job with files := job'.files } ∧
      Source.contents d job'.files = Source.contents d job.files := by
  obtain ⟨houtput, hformat, hpages, hfiles, hfragments⟩ := plan_eq_ok h
  obtain ⟨houtput', hformat', hpages', hfiles', hfragments'⟩ := plan_eq_ok h'
  have hlisting := Source.listing_of_files hfiles
  have hlisting' := Source.listing_of_files hfiles'
  constructor
  · obtain ⟨output, format, pages, fragments, paths⟩ := job
    obtain ⟨output', format', pages', fragments', paths'⟩ := job'
    cases houtput.symm.trans houtput'
    cases hformat.symm.trans hformat'
    cases hpages.symm.trans hpages'
    cases hfragments.trans hfragments'.symm
    rfl
  · refine Source.contents_eq hlisting'.isFile hlisting.isFile ?_
    exact hlisting'.map_components_eq hlisting fun arg => (hset arg).symm

end Job

namespace Run

variable {d : Disk} {o : Options} {files : List Text}

/-- Two runs for the same set of arguments end in the same way, except that they may fail for
different faults of the options. -/
theorem ofFiles_files (hset : ∀ arg, arg ∈ o.files ↔ arg ∈ files) :
    (ofFiles d o).disk = (ofFiles d { o with files := files }).disk ∧
      ((ofFiles d o).result = (ofFiles d { o with files := files }).result ∨
        ∃ f f', (ofFiles d o).result = .error f ∧
          (ofFiles d { o with files := files }).result = .error f') := by
  rcases Job.plan_cases d o with ⟨f, _, hf⟩ | ⟨job, hplan, hnone⟩
  · obtain ⟨f, _, hresult, hdisk⟩ := ofFiles_of_fault hf
    obtain ⟨f', _, hresult', hdisk'⟩ := ofFiles_of_fault (hf.of_files hset)
    exact ⟨hdisk.trans hdisk'.symm, .inr ⟨f, f', hresult, hresult'⟩⟩
  · rcases Job.plan_cases d { o with files := files } with ⟨f, _, hf⟩ | ⟨job', hplan', _⟩
    · -- A fault of one of two sets of options that agree is a fault of the other.
      exact absurd (hf.of_files fun arg => (hset arg).symm) (hnone f)
    · obtain ⟨hjob', hcontents⟩ := Job.plan_files hset hplan hplan'
      obtain ⟨hresult, hdisk⟩ := Job.execute_files hcontents
      rw [← hjob'] at hresult hdisk
      rw [(ofFiles_of_plan hplan).1, (ofFiles_of_plan hplan).2, (ofFiles_of_plan hplan').1,
        (ofFiles_of_plan hplan').2]
      exact ⟨hdisk.symm, .inl hresult.symm⟩

end Run

namespace Outcome

theorem ofRun_congr {filter filter' : Filter} {run run' : Run} (h : run.result = run'.result) :
    (ofRun filter run).exitCode = (ofRun filter' run').exitCode ∧
      (ofRun filter run).stdout = (ofRun filter' run').stdout := by
  rw [ofRun, ofRun, h]
  cases run'.result <;> exact ⟨rfl, rfl⟩

/-- Runs with files depend on the set of the arguments only: with the same options and the same set
of arguments, both fail or both succeed, and they leave the same output and the same disk. The
source files of a run are listed unless an argument is at fault; they are then the one listing of
what the arguments name, and each path of it is read once. -/
theorem arguments_as_set {d : Disk} {args args' : List Text} {o : Options} {files : List Text}
    {input input' : Contents} {setting setting' : Option Text}
    (hargs : CommandLine.read args = .run o) (hfiles : o.files ≠ [])
    (hargs' : CommandLine.read args' = .run { o with files := files })
    (hset : ∀ arg, arg ∈ o.files ↔ arg ∈ files) :
    let outcome := ofArguments d args input setting
    let outcome' := ofArguments d args' input' setting'
    (outcome.exitCode = outcome'.exitCode ∧ outcome.stdout = outcome'.stdout ∧
      outcome.disk = outcome'.disk) ∧
    ∀ arguments,
      ((∃ paths, (Source.files d arguments).1 = .ok paths) ↔
        ∀ arg ∈ arguments, ∀ f, ¬Source.ArgumentFault d arg f) ∧
      ∀ paths, (Source.files d arguments).1 = .ok paths → Source.Listing d arguments paths ∧
        ∀ b, (Source.readFiles d b paths).2.filterMap Event.source? = paths := by
  intro outcome outcome'
  constructor
  · have hfiles' : files ≠ [] := by
      intro hnil
      obtain ⟨arg, harg⟩ := List.exists_mem_of_ne_nil _ hfiles
      rw [hset, hnil] at harg
      cases harg
    have hrun : outcome = ofRun (Filter.choose setting o.verbose) (Run.ofFiles d o) := by
      simp only [outcome, ofArguments_of_read hargs, Run.ofOptions, if_neg hfiles]
    have hrun' : outcome' =
        ofRun (Filter.choose setting' o.verbose) (Run.ofFiles d { o with files := files }) := by
      simp only [outcome', ofArguments_of_read hargs', Run.ofOptions, if_neg hfiles']
    rw [hrun, hrun', disk_ofRun, disk_ofRun]
    obtain ⟨hdisk, hresult | ⟨f, f', hf, hf'⟩⟩ := Run.ofFiles_files (d := d) hset
    · obtain ⟨hexit, hstdout⟩ := ofRun_congr hresult
      exact ⟨hexit, hstdout, hdisk⟩
    · obtain ⟨hexit, hstdout, -⟩ := ofRun_of_error hf
      obtain ⟨hexit', hstdout', -⟩ := ofRun_of_error hf'
      exact ⟨hexit.trans hexit'.symm, hstdout.trans hstdout'.symm, hdisk⟩
  · intro arguments
    refine ⟨Source.exists_files_iff, fun paths hpaths => ?_⟩
    exact ⟨Source.listing_of_files hpaths, fun b => Source.sources_readFiles d b paths⟩

/-- A directory with a file, and its arguments in two orders: the file under two spellings, a
pattern that it fits, its directory, and each once or more often. -/
theorem arguments_as_set_overlapping :
    let d := ((Disk.blank ["w"]).putDir ["w", "s"]).putFile ["w", "s", "a.js"]
      (.text "/** * @class A\n * @constructor\n * @param p */")
    let args : List Text := ["s//a.js", "s/*.js", "-o", "out", "s"]
    let args' : List Text := ["-o", "out", "s", "s", "s/*.js", "s//a.js", "s/*.js"]
    let outcome := ofArguments d args (.text []) none
    let outcome' := ofArguments d args' (.text []) none
    outcome.exitCode = 0 ∧ outcome.exitCode = outcome'.exitCode ∧ outcome.disk = outcome'.disk ∧
      (Source.files d ["s//a.js", "s/*.js", "s"]).1 = .ok ["s//a.js"] ∧
      (Source.files d ["s", "s", "s/*.js", "s//a.js", "s/*.js"]).1 = .ok ["s/a.js"] ∧
      Source.Listing d ["s//a.js", "s/*.js", "s"] ["s//a.js"] := by
  intro d args args' outcome outcome'
  let o : Options := ⟨["s//a.js", "s/*.js", "s"], some "out", "html", [], none, false⟩
  have hargs : CommandLine.read args = .run o := by decide
  have hargs' : CommandLine.read args' =
      .run { o with files := ["s", "s", "s/*.js", "s//a.js", "s/*.js"] } := by decide
  have hset : ∀ arg, arg ∈ o.files ↔
      arg ∈ (["s", "s", "s/*.js", "s//a.js", "s/*.js"] : List Text) := by
    intro arg
    simp only [o, List.mem_cons, List.not_mem_nil, or_false]
    tauto
  have hfirst : (Source.files d ["s//a.js", "s/*.js", "s"]).1 = .ok ["s//a.js"] := by
    decide +kernel
  obtain ⟨⟨hexit, _, hdisk⟩, hlisting⟩ := @arguments_as_set d args args' o _ (.text []) (.text [])
    none none hargs (by decide) hargs' hset
  exact ⟨by decide +kernel, hexit, hdisk, hfirst, by decide +kernel, ((hlisting _).2 _ hfirst).1⟩

end Outcome
end CommentDocs
