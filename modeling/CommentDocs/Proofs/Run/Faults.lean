import CommentDocs.Proofs.Run.Modes

/-!
# CommentDocs.Proofs.Run.Faults

Runs that are refused. `Options.Fault` says what can be wrong with the options of a run with files,
each kind of fault with the failure that reports it. Making a plan finds out: it fails if there is a
fault, however many specifications and arguments without one stand in front of it, and what it
reports is one (`Job.plan_cases`). Nothing has been done to the disk by then, and nothing is
printed; nor is the disk ever touched by a run that documents its standard input
(`Outcome.faults_leave_no_trace`).
-/

namespace CommentDocs

/-! ## Faults -/

/-- What can be wrong with a page specification, and the failure that reports it. -/
inductive PageSet.SpecFault (d : Disk) (spec : Text) : Failure → Prop where
  | malformed : Page.readSpec spec = none → SpecFault d spec (.badPageSpec spec)
  | unreadable {name path : Text} {e : FileError} : Page.readSpec spec = some (name, path) →
      d.readText path = .error e → SpecFault d spec (.templateUnreadable path e)

/-- What can be wrong with an argument: it is neither a file nor a directory, and malformed as a
pattern. -/
inductive Source.ArgumentFault (d : Disk) (arg : Path) : Failure → Prop where
  | pattern {e : Glob.PatternError} : d.isFile arg = false → d.isDir arg = false →
      Glob.files d arg = .error e → ArgumentFault d arg (.badPattern arg e)

/-- What can be wrong with the options of a run with files. -/
inductive Options.Fault (d : Disk) (o : Options) : Failure → Prop where
  | output : o.output = none → Fault d o .outputMissing
  | format : Format.ofName? o.format = none → Fault d o (.unknownFormat o.format)
  | page {spec : Text} {f : Failure} : spec ∈ o.pages → PageSet.SpecFault d spec f → Fault d o f
  | file {arg : Text} {f : Failure} : arg ∈ o.files → Source.ArgumentFault d arg f → Fault d o f

/-! ## What a plan finds -/

namespace PageSet

variable {d : Disk} {ps pages : PageSet} {specs : List Text} {f : Failure}

theorem specFault_of_insertSpecs (h : insertSpecs d ps specs = .error f) :
    ∃ spec ∈ specs, SpecFault d spec f := by
  induction specs generalizing ps with
  | nil => cases h
  | cons spec specs ih =>
    rw [insertSpecs] at h
    split at h
    · rename_i hspec; cases h
      exact ⟨spec, List.mem_cons_self .., .malformed hspec⟩
    · rename_i name path hspec
      split at h
      · rename_i e htext; cases h
        exact ⟨spec, List.mem_cons_self .., .unreadable hspec htext⟩
      · obtain ⟨late, hlate, hf⟩ := ih h
        exact ⟨late, List.mem_cons_of_mem spec hlate, hf⟩

theorem not_specFault_of_insertSpecs (h : insertSpecs d ps specs = .ok pages) :
    ∀ spec ∈ specs, ¬SpecFault d spec f := by
  induction specs generalizing ps with
  | nil => simp
  | cons spec specs ih =>
    rw [insertSpecs] at h
    split at h
    · cases h
    · rename_i name path hspec
      split at h
      · cases h
      · rename_i template htext
        refine List.forall_mem_cons.2 ⟨?_, ih h⟩
        intro hf
        cases hf with
        | malformed hnone => rw [hnone] at hspec; cases hspec
        | unreadable hsome herror =>
          rw [hspec] at hsome
          cases hsome
          rw [htext] at herror
          cases herror

end PageSet

namespace Source

variable {d : Disk} {arg : Path} {args paths : List Path} {f : Failure}

theorem ofArgument_eq_error : ofArgument d arg = .error f ↔ ArgumentFault d arg f := by
  rw [ofArgument]
  constructor
  · intro h
    split at h
    · cases h
    · rename_i hfile
      split at h
      · cases h
      · rename_i hdir
        split at h
        · rename_i e he; cases h
          exact .pattern (by simpa using hfile) (by simpa using hdir) he
        · cases h
        · cases h
  · rintro ⟨hfile, hdir, he⟩
    simp [hfile, hdir, he]

theorem argumentFault_of_ofArguments (h : (ofArguments d args).1 = .error f) :
    ∃ arg ∈ args, ArgumentFault d arg f := by
  induction args with
  | nil => cases h
  | cons arg args ih =>
    rw [ofArguments] at h
    split at h
    · rename_i hf; cases h
      exact ⟨arg, List.mem_cons_self .., ofArgument_eq_error.1 hf⟩
    · split at h
      · rename_i hrest; cases h
        obtain ⟨late, hlate, hf⟩ := ih (by rw [hrest])
        exact ⟨late, List.mem_cons_of_mem arg hlate, hf⟩
      · cases h

theorem not_argumentFault_of_ofArguments (h : (ofArguments d args).1 = .ok paths) :
    ∀ arg ∈ args, ¬ArgumentFault d arg f := by
  induction args generalizing paths with
  | nil => simp
  | cons arg args ih =>
    rw [ofArguments] at h
    split at h
    · cases h
    · rename_i hok
      split at h
      · cases h
      · rename_i hrest
        refine List.forall_mem_cons.2 ⟨fun hf => ?_, ih (by rw [hrest])⟩
        rw [ofArgument_eq_error.2 hf] at hok
        cases hok

theorem files_eq (d : Disk) (args : List Path) :
    (files d args).1 = (ofArguments d args).1.map Path.arrange := by
  rw [files]
  split
  · rename_i he
    rw [he]
    rfl
  · rename_i he
    rw [he]
    rfl

end Source

namespace Job

variable {d : Disk} {o : Options} {f : Failure}

theorem fault_of_plan (h : (plan d o).1 = .error f) : o.Fault d f := by
  rw [plan] at h
  split at h
  · rename_i houtput; cases h
    exact .output houtput
  · split at h
    · rename_i hformat; cases h
      rw [formatOf] at hformat
      split at hformat
      · rename_i hname; cases hformat
        exact .format hname
      · cases hformat
    · split at h
      · rename_i hpages; cases h
        rw [pagesOf] at hpages
        split at hpages
        · cases hpages
        · obtain ⟨spec, hspec, hf⟩ := PageSet.specFault_of_insertSpecs hpages
          exact .page hspec hf
      · split at h
        · rename_i hfiles; cases h
          have herror : (Source.files d o.files).1 = .error f := by rw [hfiles]
          rw [Source.files_eq] at herror
          cases hpaths : (Source.ofArguments d o.files).1 with
          | ok paths => rw [hpaths] at herror; cases herror
          | error f' =>
            rw [hpaths] at herror
            cases herror
            obtain ⟨arg, harg, hf⟩ := Source.argumentFault_of_ofArguments hpaths
            exact .file harg hf
        · cases h

theorem not_fault_of_plan {job : Job} (h : (plan d o).1 = .ok job) : ¬o.Fault d f := by
  obtain ⟨houtput, hformat, hpages, hfiles, -⟩ := plan_eq_ok h
  intro hf
  cases hf with
  | output hnone => rw [hnone] at houtput; cases houtput
  | format hnone => rw [hnone] at hformat; cases hformat
  | page hspec hf =>
    rw [pagesOf, if_neg (List.ne_nil_of_mem hspec)] at hpages
    exact PageSet.not_specFault_of_insertSpecs hpages _ hspec hf
  | file harg hf =>
    rw [Source.files_eq] at hfiles
    cases hpaths : (Source.ofArguments d o.files).1 with
    | ok paths => exact Source.not_argumentFault_of_ofArguments hpaths _ harg hf
    | error f' => rw [hpaths] at hfiles; cases hfiles

/-- A plan is refused for one of the faults of its options, and made if they have none. -/
theorem plan_cases (d : Disk) (o : Options) :
    (∃ f, (plan d o).1 = .error f ∧ o.Fault d f) ∨
      ∃ job, (plan d o).1 = .ok job ∧ ∀ f, ¬o.Fault d f := by
  cases h : (plan d o).1 with
  | error f => exact .inl ⟨f, rfl, fault_of_plan h⟩
  | ok job => exact .inr ⟨job, rfl, fun f => not_fault_of_plan h⟩

end Job

/-! ## Runs -/

namespace Run

variable {d : Disk} {o : Options}

theorem ofFiles_of_fault {f : Failure} (hf : o.Fault d f) :
    ∃ f', o.Fault d f' ∧ (ofFiles d o).result = .error f' ∧ (ofFiles d o).disk = d := by
  rcases Job.plan_cases d o with ⟨f', hplan, hf'⟩ | ⟨job, _, hnone⟩
  · obtain ⟨hresult, hdisk⟩ := ofFiles_of_refused hplan
    exact ⟨f', hf', hresult, hdisk⟩
  · exact absurd hf (hnone f)

theorem disk_ofInput (d : Disk) (o : Options) (input : Contents) :
    (ofInput d o input).disk = d := by
  unfold ofInput
  split
  · rfl
  · cases input with
    | binary bytes => rfl
    | text source =>
      simp only
      split <;> rfl

theorem ofInput_eq_error_iff (d : Disk) (o : Options) (input : Contents) :
    (∃ f, (ofInput d o input).result = .error f) ↔
      o.pages ≠ [] ∨ (∃ bytes, input = .binary bytes) ∨ Format.ofName? o.format = none := by
  by_cases hpages : o.pages = []
  · cases input with
    | binary bytes => simp [ofInput, hpages]
    | text source =>
      cases hformat : Format.ofName? o.format with
      | none => simp [ofInput, hpages, Job.formatOf, hformat]
      | some format => simp [ofInput, hpages, Job.formatOf, hformat]
  · simp [ofInput, hpages]

end Run

namespace Outcome

variable {filter : Filter} {run : Run}

theorem ofRun_of_error {f : Failure} (h : run.result = .error f) :
    (ofRun filter run).exitCode = 1 ∧ (ofRun filter run).stdout = [] ∧
      ∃ log, (ofRun filter run).stderr = log ++ f.report := by
  rw [ofRun, h]
  exact ⟨rfl, rfl, _, rfl⟩

theorem exitCode_ofRun_ne_zero : (ofRun filter run).exitCode ≠ 0 ↔ ∃ f, run.result = .error f := by
  rw [ofRun]
  cases run.result with
  | ok text => simp
  | error f => simp

/-- A fault of the options leaves no trace: the run fails for a fault, prints nothing, and the disk
stays as it was. A run that documents its standard input always leaves the disk as it was, and
prints nothing if it fails. -/
theorem faults_leave_no_trace {d : Disk} {args : List Text} {o : Options} {input : Contents}
    {setting : Option Text} (hargs : CommandLine.read args = .run o) :
    let outcome := ofArguments d args input setting
    (o.files ≠ [] → (∃ f, o.Fault d f) → outcome.exitCode = 1 ∧ outcome.stdout = [] ∧
      outcome.disk = d ∧ ∃ f log, o.Fault d f ∧ outcome.stderr = log ++ f.report) ∧
    (o.files = [] → outcome.disk = d ∧ (outcome.exitCode ≠ 0 → outcome.stdout = []) ∧
      (outcome.exitCode ≠ 0 ↔
        o.pages ≠ [] ∨ (∃ bytes, input = .binary bytes) ∨ Format.ofName? o.format = none)) := by
  intro outcome
  have hrun : outcome = ofRun (Filter.choose setting o.verbose) (Run.ofOptions d o input) :=
    ofArguments_of_read hargs
  rw [hrun]
  constructor
  · rintro hfiles ⟨f, hf⟩
    obtain ⟨f', hf', hresult, hdisk⟩ := Run.ofFiles_of_fault hf
    rw [Run.ofOptions, if_neg hfiles]
    obtain ⟨hexit, hstdout, log, hstderr⟩ := ofRun_of_error hresult
    exact ⟨hexit, hstdout, disk_ofRun.trans hdisk, f', log, hf', hstderr⟩
  · intro hfiles
    rw [Run.ofOptions, if_pos hfiles]
    refine ⟨disk_ofRun.trans (Run.disk_ofInput d o input), ?_, ?_⟩
    · intro hfail
      obtain ⟨f, hf⟩ := exitCode_ofRun_ne_zero.1 hfail
      exact (ofRun_of_error hf).2.1
    · rw [exitCode_ofRun_ne_zero, Run.ofInput_eq_error_iff]

/-- A malformed pattern behind files and pages that are all right, and an unknown format for a
standard input that is no text. -/
theorem faults_leave_no_trace_late :
    let d := ((Disk.blank ["w"]).putFile ["w", "a.js"] (.text "/** * @class A */")).putFile
      ["w", "t"] (.text "%(contents)")
    let args : List Text := ["a.js", "--page", "x=t", "*.js", "-o", "new/out", "b["]
    let outcome := ofArguments d args (.text []) none
    let piped := ofArguments d ["-f", "xml"] (.binary [0xFF]) none
    (outcome.exitCode = 1 ∧ outcome.stdout = [] ∧ outcome.disk = d) ∧
      piped.disk = d ∧ piped.stdout = [] := by
  intro d args outcome piped
  let o : Options := ⟨["a.js", "*.js", "b["], some "new/out", "html", ["x=t"], none, false⟩
  have hargs : CommandLine.read args = .run o := by decide
  have hpiped : CommandLine.read ["-f", "xml"] = .run ⟨[], none, "xml", [], none, false⟩ := by
    decide
  have hpattern : Glob.files d "b[" = .error (.badBracket 1) := by decide +kernel
  have hfault : o.Fault d (.badPattern "b[" (.badBracket 1)) :=
    .file (by decide) (.pattern (by decide +kernel) (by decide +kernel) hpattern)
  obtain ⟨hexit, hstdout, hdisk, -⟩ := (faults_leave_no_trace hargs).1 (by decide) ⟨_, hfault⟩
  obtain ⟨hpipedDisk, hquiet, hfail⟩ := (faults_leave_no_trace hpiped).2 rfl
  exact ⟨⟨hexit, hstdout, hdisk⟩, hpipedDisk, hquiet (hfail.2 (.inr (.inl ⟨_, rfl⟩)))⟩

end Outcome
end CommentDocs
