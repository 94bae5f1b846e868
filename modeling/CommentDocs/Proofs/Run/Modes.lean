import CommentDocs.Proofs.Comment.Closing
import CommentDocs.Proofs.Disk.ReadBack
import CommentDocs.Proofs.Html.Layout
import CommentDocs.Run

/-!
# CommentDocs.Proofs.Run.Modes

A run with files and a run that reads its standard input document the same text in the same way.
`Outcome.page_eq_stdout` says that the page which the first writes is the text that the second
prints, when the files that can be read are given to it one behind the other with closing lines
between them.

The proof follows a run with files: what its plan contains (`Job.plan_eq_ok`), which remarks it
reads (`Source.readFiles_eq`), and how it ends (`Job.execute_eq_ok`). The default page has no use
for fragments, so it does not matter where they would come from (`PageSet.render_defaultFor`).
-/

namespace CommentDocs

/-! ## Sources -/

namespace Source

def contents (d : Disk) (files : List Path) : List Text :=
  files.filterMap fun p => (d.readText p).toOption

theorem readFiles_eq (d : Disk) (b : Builder) (files : List Path) :
    (readFiles d b files).1 = (b.readAll (contents d files)).1 := by
  induction files generalizing b with
  | nil => rfl
  | cons p files ih =>
    cases hp : d.readText p with
    | error e =>
      have hskip : contents d (p :: files) = contents d files := by
        simp [contents, hp, Except.toOption]
      simp only [readFiles, hp, hskip, ih]
    | ok source =>
      have hread : contents d (p :: files) = source :: contents d files := by
        simp [contents, hp, Except.toOption]
      simp only [readFiles, hp, hread, ih, Builder.readAll]

end Source

theorem Namespace.ofSource_intercalate (sources : List Text) :
    (Namespace.ofSource (Comment.closing.intercalate sources)).1 =
      (Builder.empty.readAll sources).1.result := by
  rw [← Builder.read_intercalate]
  rfl

/-! ## The default page -/

theorem Format.fill_defaultPage (format : Format) (contents index : Text) (f g : Fragments) :
    (Template.fill format.defaultPage contents index f).1 =
      (Template.fill format.defaultPage contents index g).1 := by
  have hcontents : ∀ f : Fragments, (Template.fill "%(contents)" contents index f).1 = contents :=
    Template.fill_contents contents index
  cases format with
  | html =>
    exact (Html.fill_defaultPage contents index f).trans
      (Html.fill_defaultPage contents index g).symm
  | json => exact (hcontents f).trans (hcontents g).symm
  | markdown => exact (hcontents f).trans (hcontents g).symm

/-- One page is made by default, and it is the same with any fragments. -/
theorem PageSet.render_defaultFor (format : Format) (ns : Namespace) :
    ∃ text, ∀ fragments,
      ((defaultFor format).render format ns fragments).1 = [(("index" : Text), text)] := by
  have hpages : (defaultFor format).pages = [⟨"index", format.defaultPage⟩] := by
    cases format <;> rfl
  refine ⟨format.finishPage (Template.fill format.defaultPage (format.render ns)
    (format.renderIndex ns) Fragments.none).1, fun fragments => ?_⟩
  rw [← Format.fill_defaultPage format _ _ fragments Fragments.none]
  simp only [render, hpages, List.map_cons, List.map_nil]
  rfl

/-! ## Jobs -/

namespace Job

variable {d d' : Disk} {o : Options} {job : Job}

theorem plan_eq_ok (h : (plan d o).1 = .ok job) :
    o.output = some job.output ∧ Format.ofName? o.format = some job.format ∧
      pagesOf d job.format o.pages = .ok job.pages ∧
      (Source.files d o.files).1 = .ok job.files ∧ job.fragments = o.fragments := by
  rw [plan] at h
  split at h
  · cases h
  · rename_i output houtput
    split at h
    · cases h
    · rename_i format hformat
      split at h
      · cases h
      · rename_i pages hpages
        split at h
        · cases h
        · rename_i files events hfiles
          cases h
          refine ⟨houtput, ?_, hpages, by rw [hfiles], rfl⟩
          rw [formatOf] at hformat
          split at hformat
          · cases hformat
          · rename_i format' hname
            cases hformat
            exact hname

theorem read_eq (job : Job) (d : Disk) :
    (job.read d).1 = (Builder.empty.readAll (Source.contents d job.files)).1.result := by
  rw [← Source.readFiles_eq]
  rfl

theorem execute_eq_ok {text : Text} (h : (job.execute d).result = .ok text) :
    ∃ made events, d.makeDirs job.output = (none, made) ∧
      job.write made (job.pages.render job.format (job.read d).1
        (.ofOption made job.fragments)).1 = (none, events, (job.execute d).disk) := by
  rw [execute] at h ⊢
  simp only at h ⊢
  split at h
  · cases h
  · rename_i made hmade
    split at h
    · cases h
    · rename_i events d' hwrite
      exact ⟨made, events, hmade, hwrite⟩

theorem write_singleton {name text : Text} {events : List Event}
    (h : job.write d [(name, text)] = (none, events, d')) :
    d'.readText (job.pagePath name) = .ok text := by
  rw [write] at h
  simp only at h
  split at h
  · cases h
  · rename_i written hwritten
    cases h
    exact Disk.readText_of_write hwritten

end Job

/-! ## Both modes -/

namespace Run

variable {d : Disk} {o : Options} {text : Text}

theorem ofFiles_of_refused {f : Failure} (h : (Job.plan d o).1 = .error f) :
    (ofFiles d o).result = .error f ∧ (ofFiles d o).disk = d := by
  rw [ofFiles]
  generalize Job.plan d o = plan at h
  obtain ⟨result, events⟩ := plan
  cases h
  exact ⟨rfl, rfl⟩

theorem ofFiles_of_plan {job : Job} (h : (Job.plan d o).1 = .ok job) :
    (ofFiles d o).result = (job.execute d).result ∧ (ofFiles d o).disk = (job.execute d).disk := by
  rw [ofFiles]
  generalize Job.plan d o = plan at h
  obtain ⟨result, events⟩ := plan
  cases h
  exact ⟨rfl, rfl⟩

theorem ofFiles_eq_ok (h : (ofFiles d o).result = .ok text) :
    ∃ job, (Job.plan d o).1 = .ok job ∧ (job.execute d).result = .ok text ∧
      (ofFiles d o).disk = (job.execute d).disk := by
  cases hplan : (Job.plan d o).1 with
  | error f =>
    rw [(ofFiles_of_refused hplan).1] at h
    cases h
  | ok job =>
    obtain ⟨hresult, hdisk⟩ := ofFiles_of_plan hplan
    exact ⟨job, rfl, hresult.symm.trans h, hdisk⟩

/-- The page of a run without others, once it is written, is the default page of what its files
document. -/
theorem readText_ofFiles (hpages : o.pages = []) (h : (ofFiles d o).result = .ok text) :
    ∃ output format files, o.output = some output ∧ Format.ofName? o.format = some format ∧
      (Source.files d o.files).1 = .ok files ∧
      ∀ page, (∀ fragments, ((PageSet.defaultFor format).render format
          (Builder.empty.readAll (Source.contents d files)).1.result fragments).1 =
            [(("index" : Text), page)]) →
        (ofFiles d o).disk.readText (Path.join output ("index" ++ "." ++ format.extension)) =
          .ok page := by
  obtain ⟨job, hplan, hexecute, hdisk⟩ := ofFiles_eq_ok h
  obtain ⟨houtput, hformat, hset, hfiles, -⟩ := Job.plan_eq_ok hplan
  obtain ⟨made, events, -, hwrite⟩ := Job.execute_eq_ok hexecute
  refine ⟨job.output, job.format, job.files, houtput, hformat, hfiles, fun page hpage => ?_⟩
  rw [hpages, Job.pagesOf, if_pos rfl] at hset
  rw [← Except.ok.inj hset, Job.read_eq, hpage] at hwrite
  rw [hdisk]
  exact Job.write_singleton hwrite

theorem result_ofInput {format : Format} {source page : Text} (hpages : o.pages = [])
    (hformat : Format.ofName? o.format = some format)
    (hpage : ∀ fragments, ((PageSet.defaultFor format).render format
      (Namespace.ofSource source).1 fragments).1 = [(("index" : Text), page)]) :
    (ofInput d o (.text source)).result = .ok page := by
  have hknown : Job.formatOf o.format = .ok format := by rw [Job.formatOf, hformat]
  simp only [ofInput, hpages, ne_eq, not_true_eq_false, if_false, hknown, hpage,
    List.flatMap_cons, List.flatMap_nil, List.append_nil]

end Run

namespace Outcome

theorem exitCode_ofRun {filter : Filter} {run : Run} (h : (ofRun filter run).exitCode = 0) :
    ∃ text, run.result = .ok text := by
  rw [ofRun] at h
  cases hr : run.result with
  | ok text => exact ⟨text, rfl⟩
  | error f => simp [hr] at h

theorem disk_ofRun {filter : Filter} {run : Run} : (ofRun filter run).disk = run.disk := by
  rw [ofRun]
  split <;> rfl

theorem ofArguments_of_read {d : Disk} {args : List Text} {o : Options} {input : Contents}
    {setting : Option Text} (hargs : CommandLine.read args = .run o) :
    ofArguments d args input setting =
      ofRun (Filter.choose setting o.verbose) (Run.ofOptions d o input) := by
  rw [ofArguments, hargs]

/-- What a run with files writes, if it succeeds and no other page was asked for, is what a run
prints that finds those of the files which can be read in its standard input, with closing lines
between them. Neither the other options nor the disk of the second run matter. -/
theorem page_eq_stdout {d : Disk} {args : List Text} {o : Options} {input : Contents}
    {setting : Option Text} (hargs : CommandLine.read args = .run o) (hfiles : o.files ≠ [])
    (hpages : o.pages = []) (hok : (ofArguments d args input setting).exitCode = 0) :
    ∃ output format files, o.output = some output ∧ Format.ofName? o.format = some format ∧
      (Source.files d o.files).1 = .ok files ∧
      ∀ d' args' o' setting', CommandLine.read args' = .run o' → o'.files = [] → o'.pages = [] →
        Format.ofName? o'.format = some format →
        let source := Comment.closing.intercalate (Source.contents d files)
        let printed := ofArguments d' args' (.text source) setting'
        printed.exitCode = 0 ∧
          (ofArguments d args input setting).disk.readText
            (Path.join output ("index" ++ "." ++ format.extension)) = .ok printed.stdout := by
  have hrun : ofArguments d args input setting =
      ofRun (Filter.choose setting o.verbose) (Run.ofFiles d o) := by
    rw [ofArguments, hargs]
    simp only [Run.ofOptions, if_neg hfiles]
  rw [hrun] at hok ⊢
  obtain ⟨text, htext⟩ := exitCode_ofRun hok
  obtain ⟨output, format, files, houtput, hformat, hsources, hpage⟩ :=
    Run.readText_ofFiles hpages htext
  refine ⟨output, format, files, houtput, hformat, hsources, ?_⟩
  intro d' args' o' setting' hargs' hfiles' hpages' hformat' source
  -- Both runs make their page from the namespace that the sources document.
  obtain ⟨page, hrender⟩ := PageSet.render_defaultFor format
    (Builder.empty.readAll (Source.contents d files)).1.result
  have hsource : (Namespace.ofSource source).1 =
      (Builder.empty.readAll (Source.contents d files)).1.result :=
    Namespace.ofSource_intercalate _
  have hprinted : (Run.ofInput d' o' (.text source)).result = .ok page := by
    refine Run.result_ofInput hpages' hformat' ?_
    rw [hsource]
    exact hrender
  have hrun' : ofArguments d' args' (.text source) setting' =
      ofRun (Filter.choose setting' o'.verbose) (Run.ofInput d' o' (.text source)) := by
    rw [ofArguments, hargs']
    simp only [Run.ofOptions, if_pos hfiles']
  have hdisk : (ofRun (Filter.choose setting o.verbose) (Run.ofFiles d o)).disk =
      (Run.ofFiles d o).disk := by
    rw [ofRun, htext]
  simp only [hrun', hdisk]
  rw [ofRun, hprinted]
  exact ⟨rfl, hpage page hrender⟩

/-- A comment left open in front of a carriage return, a file that is no text, and half a marker at
the end of the last file. -/
def openEnded : Disk :=
  (((Disk.blank ["w"]).putFile ["w", "a.js"] (.text "/** * @class A\r")).putFile ["w", "b.js"]
    (.binary [0xFF])).putFile ["w", "c.js"] (.text "/**\n * @method f */ /")

theorem page_eq_stdout_openEnded :
    let args : List Text := ["c.js", "-o", "out", "-fmd", "a.js", "b.js"]
    let source : Text := "/** * @class A\r\n*/\n/**\n * @method f */ /"
    let printed := ofArguments (Disk.blank []) ["-f", "markdown"] (.text source) none
    (ofArguments openEnded args (.text []) none).exitCode = 0 ∧
      (ofArguments openEnded args (.text []) none).disk.readText "out/index.md" =
        .ok printed.stdout ∧
      printed.stdout = "## Index\n\n* [A](#class-a)\n\n<a id=\"class-a\"></a>\n\n## class `A`\n\n"
        ++ "### `f()`\n\n" := by
  intro args source printed
  have hargs : CommandLine.read args =
      .run ⟨["c.js", "a.js", "b.js"], some "out", "md", [], none, false⟩ := by decide
  have hok : (ofArguments openEnded args (.text []) none).exitCode = 0 := by decide +kernel
  obtain ⟨output, format, files, houtput, hformat, hfiles, h⟩ :=
    page_eq_stdout hargs (by decide) rfl hok
  have hmarkdown : Format.ofName? "md" = some .markdown := by decide
  have hsources : (Source.files openEnded ["c.js", "a.js", "b.js"]).1 =
      .ok ["a.js", "b.js", "c.js"] := by decide +kernel
  have hcontents : Comment.closing.intercalate
      (Source.contents openEnded ["a.js", "b.js", "c.js"]) = source := by decide +kernel
  cases Option.some.inj houtput
  cases Option.some.inj (hmarkdown.symm.trans hformat)
  cases Except.ok.inj (hsources.symm.trans hfiles)
  have hprinted := h (Disk.blank []) ["-f", "markdown"] ⟨[], none, "markdown", [], none, false⟩ none
    (by decide) rfl rfl (by decide)
  simp only [hcontents] at hprinted
  exact ⟨hok, hprinted.2, by decide +kernel⟩

end Outcome
end CommentDocs
