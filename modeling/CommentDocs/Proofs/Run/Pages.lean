import CommentDocs.Proofs.Disk.Creation
import CommentDocs.Proofs.Run.Modes
import Mathlib.Data.List.Nodup

/-!
# CommentDocs.Proofs.Run.Pages

What a run with files leaves on the disk. `Published` says how a disk looks after pages have been
put into a directory and nothing else has been done: the directory and those above it are there,
each page is a file directly in it, under a name of its own, and no other place has changed.
`Outcome.pages_published` says that every run with files that succeeds leaves such a disk.

A page name is checked when it is read: it holds no slash, so the name of its file is one component
(`Format.components_fileName`), and it leads from the output directory to a place directly in it
(`Job.write_page`). Page names are distinct, so no page lies where another one was written
(`Job.write_eq_none`).
-/

namespace CommentDocs

/-! ## File names of pages -/

/-- The name of the file for a page. -/
def Format.fileName (format : Format) (page : Text) : Text := page ++ "." ++ format.extension

theorem Format.fileName_inj {format : Format} {a b : Text} :
    format.fileName a = format.fileName b ↔ a = b := by
  simp [fileName]

theorem Format.follows_fileName (format : Format) {page : Text} (h : '/' ∉ page) :
    Path.Component.Follows (.name (format.fileName page)) := by
  have hlength : 3 ≤ (format.fileName page).length := by
    cases format <;> simp [fileName, extension]
  have hslash : '/' ∉ format.fileName page := by
    cases format <;> simp [fileName, extension, h]
  refine ⟨?_, hslash⟩
  have hhere : ¬(format.fileName page = [] ∨ format.fileName page = ".") := by
    rintro (he | he) <;> simp [he] at hlength
  have hup : format.fileName page ≠ ".." := by
    intro he
    simp [he] at hlength
  rw [Path.Component.text, Path.component?, if_neg hhere, if_neg hup]

theorem Format.components_fileName (format : Format) {page : Text} (h : '/' ∉ page) :
    Path.components (format.fileName page) = [.name (format.fileName page)] :=
  (format.follows_fileName h).components_text

theorem Page.not_mem_of_readSpec {spec name path : Text}
    (h : Page.readSpec spec = some (name, path)) : '/' ∉ name := by
  rw [readSpec] at h
  split at h
  · cases h
  · simp only at h
    split at h
    · cases h
    · rename_i hname
      cases h
      simp only [not_or] at hname
      exact hname.2.1

namespace PageSet

theorem mem_names_insert {ps : PageSet} {name template n : Text} :
    n ∈ (ps.insert name template).pages.map Page.name ↔
      n = name ∨ n ∈ ps.pages.map Page.name := by
  rw [insert]
  split
  · rename_i h
    rw [map_name_retemplate]
    constructor
    · exact .inr
    · rintro (rfl | hn)
      · exact h
      · exact hn
  · simp [or_comm]

theorem not_mem_names_insertSpecs {d : Disk} {ps pages : PageSet} {specs : List Text}
    (h : insertSpecs d ps specs = .ok pages) (hps : ∀ n ∈ ps.pages.map Page.name, '/' ∉ n) :
    ∀ n ∈ pages.pages.map Page.name, '/' ∉ n := by
  induction specs generalizing ps with
  | nil =>
    cases h
    exact hps
  | cons spec specs ih =>
    rw [insertSpecs] at h
    split at h
    · cases h
    · rename_i name path hspec
      split at h
      · cases h
      · refine ih h ?_
        intro n hn
        rcases mem_names_insert.1 hn with rfl | hn
        · exact Page.not_mem_of_readSpec hspec
        · exact hps n hn

theorem map_fst_render (ps : PageSet) (format : Format) (ns : Namespace) (fragments : Fragments) :
    (ps.render format ns fragments).1.map Prod.fst = ps.pages.map Page.name := by
  simp only [render, List.map_map]
  exact List.map_congr_left fun p _ => rfl

end PageSet

namespace Job

theorem not_mem_names_pagesOf {d : Disk} {format : Format} {specs : List Text} {pages : PageSet}
    (h : pagesOf d format specs = .ok pages) : ∀ n ∈ pages.pages.map Page.name, '/' ∉ n := by
  rw [pagesOf] at h
  split at h
  · cases h
    intro n hn
    rcases PageSet.mem_names_insert.1 hn with rfl | hn
    · decide
    · cases hn
  · exact PageSet.not_mem_names_insertSpecs h fun n hn => by cases hn

end Job

/-! ## Writing pages -/

/-- The place of a name directly in a directory. -/
def Disk.inside (d : Disk) (dir : Path) (name : Text) : Location := d.place dir.components ++ [name]

theorem Disk.inside_inj {d : Disk} {dir : Path} {a b : Text} :
    d.inside dir a = d.inside dir b ↔ a = b := by
  simp [inside]

theorem Disk.Grows.inside_eq {d d' : Disk} (h : Grows d d') (dir : Path) (name : Text) :
    d'.inside dir name = d.inside dir name := by
  rw [inside, h.place_eq, inside]

namespace Job

variable {d d' : Disk} {job : Job} {name text : Text}

theorem write_page (h : d.write (job.pagePath name) text = .ok d') (houtput : job.output ≠ [])
    (hname : '/' ∉ name) :
    d.node? (d.inside job.output (job.format.fileName name)) ≠ some .dir ∧
      d' = d.putFile (d.inside job.output (job.format.fileName name)) (.text text) ∧
      d'.resolve (job.pagePath name) = .ok (d.inside job.output (job.format.fileName name)) := by
  obtain ⟨new, hresolve, hne, hdir, rfl⟩ := Disk.resolve_of_write h
  have hcomponents : Path.components (job.pagePath name) =
      Path.components job.output ++ [.name (job.format.fileName name)] := by
    have hfile := job.format.follows_fileName hname
    have hpath : job.pagePath name = job.output.join (job.format.fileName name) := rfl
    have habsolute : Path.isAbsolute (job.format.fileName name) = false :=
      Path.isAbsolute_of_not_mem hfile.2
    rw [hpath, Path.components_join houtput habsolute]
    exact congrArg _ hfile.steps_text
  have hnew : new = d.inside job.output (job.format.fileName name) := by
    rw [Disk.resolve_eq_place hresolve, (Disk.grows_putFile hne hdir).place_eq, hcomponents,
      Disk.place_append_name, Disk.inside]
  rw [← hnew]
  exact ⟨hdir, rfl, hresolve⟩

/-- Pages of distinct names, once they are all written, are in the output directory, and all other
places are as they were. -/
theorem write_eq_none {pages : List (Text × Text)} {events : List Event}
    (h : job.write d pages = (none, events, d')) (houtput : job.output ≠ [])
    (hslash : ∀ n ∈ pages.map Prod.fst, '/' ∉ n) (hnames : (pages.map Prod.fst).Nodup) :
    Disk.Grows d d' ∧
      (∀ page ∈ pages,
        d'.node? (d.inside job.output (job.format.fileName page.1)) = some (.file (.text page.2)) ∧
          d'.resolve (job.pagePath page.1) =
            .ok (d.inside job.output (job.format.fileName page.1))) ∧
      ∀ k, (∀ page ∈ pages, k ≠ d.inside job.output (job.format.fileName page.1)) →
        d'.node? k = d.node? k := by
  induction pages generalizing d events with
  | nil =>
    cases h
    exact ⟨.refl _, by simp, fun k _ => rfl⟩
  | cons page pages ih =>
    obtain ⟨name, text⟩ := page
    rw [write] at h
    simp only at h
    split at h
    · cases h
    · rename_i written hwrite
      have hslash' := List.forall_mem_cons.1 hslash
      obtain ⟨hfresh, hnames'⟩ := List.nodup_cons.1 hnames
      obtain ⟨hdir, rfl, hresolve⟩ := write_page hwrite houtput hslash'.1
      generalize hrest : job.write _ pages = rest at h
      obtain ⟨failure, more, last⟩ := rest
      cases h
      have hgrows : Disk.Grows d (d.putFile (d.inside job.output (job.format.fileName name))
          (.text text)) := Disk.grows_putFile (by simp [Disk.inside]) hdir
      obtain ⟨hgrows', hpages, hother⟩ := ih hrest hslash'.2 hnames'
      simp only [hgrows.inside_eq] at hpages hother
      refine ⟨hgrows.trans hgrows', List.forall_mem_cons.2 ⟨⟨?_, hgrows'.resolve hresolve⟩, hpages⟩,
        fun k hk => ?_⟩
      · -- The pages that follow have other names, so they are written elsewhere.
        rw [hother _ ?_, Disk.node?_putFile _ _ _ _ (by simp [Disk.inside]), if_pos rfl]
        intro page hpage he
        rw [Disk.inside_inj, Format.fileName_inj] at he
        exact hfresh (he ▸ List.mem_map_of_mem hpage)
      · obtain ⟨hk, hk'⟩ := List.forall_mem_cons.1 hk
        rw [hother k hk', Disk.node?_putFile _ _ _ _ (by simp [Disk.inside]), if_neg (Ne.symm hk)]

end Job

/-! ## The whole run -/

/-- How a disk looks after pages have been put as files into the directory `output`, and nothing
else has been done to it. -/
structure Published (before : Disk) (output : Path) (format : Format) (pages : List (Text × Text))
    (after : Disk) : Prop where
  /-- The directory is there, with those above it. -/
  dirs : ∀ n, 0 < n → after.node? (before.place (output.components.take n)) = some .dir
  /-- The name of each file is a plain name, so the file stands in the directory itself. -/
  plain : ∀ page ∈ pages,
    Path.components (format.fileName page.1) = [.name (format.fileName page.1)]
  distinct : (pages.map fun page => format.fileName page.1).Nodup
  files : ∀ page ∈ pages,
    after.node? (before.inside output (format.fileName page.1)) = some (.file (.text page.2))
  readable : ∀ page ∈ pages,
    after.readText (output.join (format.fileName page.1)) = .ok page.2
  /-- Any other place that has changed was empty, and is now the directory or one above it. -/
  rest : ∀ k, (∀ page ∈ pages, k ≠ before.inside output (format.fileName page.1)) →
    after.node? k = before.node? k ∨
      (before.node? k = none ∧ after.node? k = some .dir ∧
        ∃ n, 0 < n ∧ k = before.place (output.components.take n))
  current_eq : after.current = before.current

namespace Job

variable {d : Disk} {job : Job} {text : Text}

theorem published_of_execute (h : (job.execute d).result = .ok text)
    (hslash : ∀ n ∈ job.pages.pages.map Page.name, '/' ∉ n) :
    (d.makeDirs job.output).1 = none ∧
      Published d job.output job.format
        (job.pages.render job.format (job.read d).1
          (.ofOption (d.makeDirs job.output).2 job.fragments)).1 (job.execute d).disk := by
  obtain ⟨made, events, hmade, hwrite⟩ := execute_eq_ok h
  have hadds := Disk.node?_makeDirs d job.output
  have hgrows := (Disk.addsDirs_makeDirs d job.output).grows
  rw [hmade] at hadds hgrows ⊢
  refine ⟨rfl, ?_⟩
  have hisDir := Disk.isDir_of_makeDirs hmade
  have houtput : job.output ≠ [] := by
    intro hnil
    rw [hnil] at hisDir
    cases hisDir
  have hnames := PageSet.map_fst_render job.pages job.format (job.read d).1
    (.ofOption made job.fragments)
  simp only at hadds ⊢
  generalize (job.pages.render job.format (job.read d).1
    (.ofOption made job.fragments)).1 = pages at hwrite hnames ⊢
  have hslash' : ∀ page ∈ pages, '/' ∉ page.1 := by
    intro page hpage
    refine hslash page.1 ?_
    rw [← hnames]
    exact List.mem_map_of_mem hpage
  have hnodup : (pages.map Prod.fst).Nodup := hnames ▸ job.pages.nodup
  obtain ⟨hgrows', hpages, hother⟩ := write_eq_none hwrite houtput (hnames ▸ hslash) hnodup
  simp only [hgrows.inside_eq] at hpages hother
  constructor
  case dirs =>
    intro n hn
    have hdir := Disk.isDir_beginnings hisDir hn
    rw [hgrows.place_eq] at hdir
    exact hgrows'.dir _ hdir
  case plain => exact fun page hpage => job.format.components_fileName (hslash' page hpage)
  case distinct =>
    have hinjective : Function.Injective job.format.fileName := fun a b => Format.fileName_inj.1
    have hmap := hnodup.map hinjective
    rwa [List.map_map] at hmap
  case files => exact fun page hpage => (hpages page hpage).1
  case readable =>
    intro page hpage
    obtain ⟨hnode, hresolve⟩ := hpages page hpage
    exact Disk.readText_of_node? hresolve hnode
  case rest =>
    intro k hk
    rw [hother k hk]
    exact hadds k
  case current_eq => exact (hgrows.trans hgrows').current_eq

end Job

namespace Outcome

/-- A run with files that succeeds publishes its pages and does nothing else to the disk. The page
set is the one that the options ask for, and whatever name a page specification gives, the name of
the file is one plain component. -/
theorem pages_published :
    (∀ spec name path, Page.readSpec spec = some (name, path) → ∀ format : Format,
      Path.components (format.fileName name) = [.name (format.fileName name)]) ∧
    ∀ d args o input setting, CommandLine.read args = .run o → o.files ≠ [] →
      (ofArguments d args input setting).exitCode = 0 →
      ∃ output format pages files, o.output = some output ∧
        Format.ofName? o.format = some format ∧ Job.pagesOf d format o.pages = .ok pages ∧
        (Source.files d o.files).1 = .ok files ∧ (d.makeDirs output).1 = none ∧
        let ns := (Builder.empty.readAll (Source.contents d files)).1.result
        let rendered :=
          (pages.render format ns (.ofOption (d.makeDirs output).2 o.fragments)).1
        rendered.map Prod.fst = pages.pages.map Page.name ∧
          Published d output format rendered (ofArguments d args input setting).disk := by
  refine ⟨fun spec name path hspec format =>
    format.components_fileName (Page.not_mem_of_readSpec hspec), ?_⟩
  intro d args o input setting hargs hfiles hok
  rw [ofArguments_of_read hargs, Run.ofOptions, if_neg hfiles] at hok ⊢
  obtain ⟨text, htext⟩ := exitCode_ofRun hok
  obtain ⟨job, hplan, hexecute, hdisk⟩ := Run.ofFiles_eq_ok htext
  obtain ⟨houtput, hformat, hpages, hsources, hfragments⟩ := Job.plan_eq_ok hplan
  obtain ⟨hmade, hpublished⟩ :=
    Job.published_of_execute hexecute (Job.not_mem_names_pagesOf hpages)
  rw [Job.read_eq, hfragments] at hpublished
  refine ⟨job.output, job.format, job.pages, job.files, houtput, hformat, hpages, hsources, hmade,
    PageSet.map_fst_render _ _ _ _, ?_⟩
  rw [disk_ofRun, hdisk]
  exact hpublished

def templated : Disk :=
  (((Disk.blank ["w"]).putFile ["w", "a.js"] (.text "/** * @class A */")).putFile ["w", "t"]
    (.text "%(index)")).putFile ["w", "u"] (.text "[%(title)]")

/-- A page that is asked for twice, page names with dots and a blank, and an output directory behind
one that is made on the way only. -/
theorem pages_published_around :
    let args : List Text := ["a.js", "-fmd", "--page", "..=t", "-o", "new/../docs//api/", "--page",
      " b c = t", "--page=..=u"]
    let after := (ofArguments templated args (.text []) none).disk
    let changes : List (Location × DiskNode) := [(["w", "docs"], .dir),
      (["w", "docs", "api"], .dir), (["w", "docs", "api", "...md"], .file (.text "[%(title)]")),
      (["w", "docs", "api", "b c.md"], .file (.text "* [A](#class-a)\n")), (["w", "new"], .dir)]
    (ofArguments templated args (.text []) none).exitCode = 0 ∧
      Published templated "new/../docs//api/" .markdown
        [("..", "[%(title)]"), ("b c", "* [A](#class-a)\n")] after ∧
      templated.changes after = changes := by
  intro args after changes
  let o : Options := ⟨["a.js"], some "new/../docs//api/", "md", ["..=t", " b c = t", "..=u"], none,
    false⟩
  have hargs : CommandLine.read args = .run o := by decide
  have hok : (ofArguments templated args (.text []) none).exitCode = 0 := by decide +kernel
  obtain ⟨output, format, pages, files, houtput, hformat, hpages, hfiles, -, -, hpublished⟩ :=
    pages_published.2 templated args o (.text []) none hargs (by decide) hok
  have hmarkdown : Format.ofName? "md" = some .markdown := by decide
  have hsources : (Source.files templated ["a.js"]).1 = .ok ["a.js"] := by decide +kernel
  cases Option.some.inj houtput
  cases Option.some.inj (hmarkdown.symm.trans hformat)
  cases Except.ok.inj (hsources.symm.trans hfiles)
  have hrendered : (Job.pagesOf templated .markdown o.pages).map (fun pages =>
      (pages.render .markdown (Builder.empty.readAll (Source.contents templated ["a.js"])).1.result
        .none).1) = .ok [("..", "[%(title)]"), ("b c", "* [A](#class-a)\n")] := by
    decide +kernel
  rw [hpages] at hrendered
  refine ⟨hok, ?_, by decide +kernel⟩
  rw [← Except.ok.inj hrendered]
  exact hpublished

end Outcome
end CommentDocs
