import CommentDocs.Proofs.Comment.Conservation
import CommentDocs.Proofs.Page.Insertion
import CommentDocs.Proofs.Run.Faults

/-!
# CommentDocs.Proofs.Run.Specifications

Page sets made of specifications. `Page.Written` says how a specification is written that names a
page, `Page.Malformed` what is wrong with any other. With the disk, a specification either gives a
page (`Page.Given`) or has a fault, and of a list of them the first fault is the failure
(`PageSet.insertSpecs_eq_error`). If there is none, all pages that are given are inserted, in the
order of the specifications (`PageSet.insertSpecs_eq_ok`), so the set shows them as any set shows
the pages that were inserted into it (`PageSet.ofSpecs_keeps_order`).
-/

namespace CommentDocs

theorem Text.mem_trim {c : Char} (hc : isBlank c = false) {t : Text} : c ∈ trim t ↔ c ∈ t := by
  have hink : ∀ s : Text, c ∈ ink s ↔ c ∈ s := by simp [ink, hc]
  rw [← hink, ink_trim, hink]

namespace Page

/-- A specification that names a page, with the name and the path of its template: both are the
trimmed text on one side of the first equals sign, neither is empty, and what stands before the sign
holds no slash and no backslash. -/
inductive Written : Text → Text → Text → Prop where
  | named {left right : Text} : '=' ∉ left → Text.trim left ≠ [] → '/' ∉ left → '\\' ∉ left →
      Text.trim right ≠ [] → Written (left ++ '=' :: right) (Text.trim left) (Text.trim right)

/-- A specification that names no page: it has no equals sign, or something is wrong with the text
on one side of the first. -/
inductive Malformed : Text → Prop where
  | uncut {spec : Text} : '=' ∉ spec → Malformed spec
  | nameless {left right : Text} : '=' ∉ left → Text.trim left = [] →
      Malformed (left ++ '=' :: right)
  | slashed {left right : Text} : '=' ∉ left → '/' ∈ left ∨ '\\' ∈ left →
      Malformed (left ++ '=' :: right)
  | pathless {left right : Text} : '=' ∉ left → Text.trim right = [] →
      Malformed (left ++ '=' :: right)

/-- The page that a specification gives: its name, and the text of its template. -/
def Given (d : Disk) (spec : Text) (p : Page) : Prop :=
  ∃ path, Written spec p.name path ∧ d.readText path = .ok p.template

/-! ## One specification -/

theorem readSpec_cut {left : Text} (hcut : '=' ∉ left) (right : Text) :
    readSpec (left ++ '=' :: right) =
      if Text.trim left = [] ∨ '/' ∈ left ∨ '\\' ∈ left ∨ Text.trim right = [] then none
      else some (Text.trim left, Text.trim right) := by
  have hslash : '/' ∈ Text.trim left ↔ '/' ∈ left := Text.mem_trim (by decide)
  have hbackslash : '\\' ∈ Text.trim left ↔ '\\' ∈ left := Text.mem_trim (by decide)
  rw [readSpec, Text.splitOnce_eq_some.2 ⟨rfl, hcut⟩]
  simp only [hslash, hbackslash]

theorem readSpec_eq_some {spec name path : Text} :
    readSpec spec = some (name, path) ↔ Written spec name path := by
  constructor
  · intro h
    cases hcut : Text.splitOnce '=' spec with
    | none =>
      rw [readSpec, hcut] at h
      cases h
    | some sides =>
      obtain ⟨rfl, hleft⟩ := Text.splitOnce_eq_some.1 hcut
      rw [readSpec_cut hleft] at h
      split at h
      · cases h
      · rename_i hsound; cases h
        simp only [not_or] at hsound
        obtain ⟨hname, hslash, hbackslash, hpath⟩ := hsound
        exact .named hleft hname hslash hbackslash hpath
  · rintro ⟨hleft, hname, hslash, hbackslash, hpath⟩
    rw [readSpec_cut hleft, if_neg]
    rintro (h | h | h | h)
    · exact hname h
    · exact hslash h
    · exact hbackslash h
    · exact hpath h

theorem readSpec_eq_none {spec : Text} : readSpec spec = none ↔ Malformed spec := by
  constructor
  · intro h
    cases hcut : Text.splitOnce '=' spec with
    | none => exact .uncut (Text.splitOnce_eq_none.1 hcut)
    | some sides =>
      obtain ⟨rfl, hleft⟩ := Text.splitOnce_eq_some.1 hcut
      rw [readSpec_cut hleft] at h
      split at h
      · rename_i hfault
        rcases hfault with hname | hslash | hbackslash | hpath
        · exact .nameless hleft hname
        · exact .slashed hleft (.inl hslash)
        · exact .slashed hleft (.inr hbackslash)
        · exact .pathless hleft hpath
      · cases h
  · intro h
    cases h with
    | uncut hcut => rw [readSpec, Text.splitOnce_eq_none.2 hcut]
    | nameless hleft hname => rw [readSpec_cut hleft, if_pos (.inl hname)]
    | slashed hleft hslash => rw [readSpec_cut hleft, if_pos (.inr (by tauto))]
    | pathless hleft hpath => rw [readSpec_cut hleft, if_pos (.inr (.inr (.inr hpath)))]

end Page

namespace PageSet

variable {d : Disk} {ps pages : PageSet} {spec : Text} {specs : List Text} {p : Page}
variable {f g : Failure}

theorem specFault_iff :
    SpecFault d spec f ↔
      Page.Malformed spec ∧ f = .badPageSpec spec ∨
      ∃ name path e, Page.Written spec name path ∧ d.readText path = .error e ∧
        f = .templateUnreadable path e := by
  constructor
  · intro h
    cases h with
    | malformed hnone => exact .inl ⟨Page.readSpec_eq_none.1 hnone, rfl⟩
    | unreadable hsome herror =>
      exact .inr ⟨_, _, _, Page.readSpec_eq_some.1 hsome, herror, rfl⟩
  · rintro (⟨hmalformed, rfl⟩ | ⟨name, path, e, hwritten, herror, rfl⟩)
    · exact .malformed (Page.readSpec_eq_none.2 hmalformed)
    · exact .unreadable (Page.readSpec_eq_some.2 hwritten) herror

theorem given_or_fault (d : Disk) (spec : Text) :
    (∃ p, Page.Given d spec p) ∨ ∃ f, SpecFault d spec f := by
  cases hspec : Page.readSpec spec with
  | none => exact .inr ⟨_, .malformed hspec⟩
  | some named =>
    obtain ⟨name, path⟩ := named
    cases htext : d.readText path with
    | error e => exact .inr ⟨_, .unreadable hspec htext⟩
    | ok template => exact .inl ⟨⟨name, template⟩, path, Page.readSpec_eq_some.1 hspec, htext⟩

theorem insertSpecs_of_given (h : Page.Given d spec p) (ps : PageSet) (specs : List Text) :
    insertSpecs d ps (spec :: specs) = insertSpecs d (ps.insert p.name p.template) specs := by
  obtain ⟨path, hwritten, htext⟩ := h
  rw [insertSpecs, Page.readSpec_eq_some.2 hwritten]
  simp only [htext]

theorem insertSpecs_of_fault (h : SpecFault d spec f) (ps : PageSet) (specs : List Text) :
    insertSpecs d ps (spec :: specs) = .error f := by
  cases h with
  | malformed hnone => rw [insertSpecs, hnone]
  | unreadable hsome herror =>
    rw [insertSpecs, hsome]
    simp only [herror]

theorem SpecFault.eq (hf : SpecFault d spec f) (hg : SpecFault d spec g) : f = g := by
  have h := (insertSpecs_of_fault hf empty []).symm.trans (insertSpecs_of_fault hg empty [])
  cases h
  rfl

theorem SpecFault.not_given (hf : SpecFault d spec f) : ¬Page.Given d spec p := by
  intro hp
  have h := (insertSpecs_of_fault hf empty []).symm.trans (insertSpecs_of_given hp empty [])
  cases h

/-! ## Lists of specifications -/

/-- The failure is the fault of the first specification that has one. -/
theorem insertSpecs_eq_error :
    insertSpecs d ps specs = .error f ↔
      ∃ before spec after, specs = before ++ spec :: after ∧
        (∀ s ∈ before, ∀ g, ¬SpecFault d s g) ∧ SpecFault d spec f := by
  induction specs generalizing ps with
  | nil =>
    constructor
    · intro h
      cases h
    · rintro ⟨before, spec, after, h, -⟩
      simp at h
  | cons s specs ih =>
    rcases given_or_fault d s with ⟨p, hp⟩ | ⟨g, hg⟩
    · rw [insertSpecs_of_given hp, ih]
      constructor
      · rintro ⟨before, spec, after, rfl, hbefore, hspec⟩
        refine ⟨s :: before, spec, after, rfl, ?_, hspec⟩
        exact List.forall_mem_cons.2 ⟨fun g hg => hg.not_given hp, hbefore⟩
      · rintro ⟨before, spec, after, h, hbefore, hspec⟩
        cases before with
        | nil => cases h; exact absurd hp hspec.not_given
        | cons s' before =>
          cases h
          exact ⟨before, spec, after, rfl, (List.forall_mem_cons.1 hbefore).2, hspec⟩
    · rw [insertSpecs_of_fault hg]
      constructor
      · rintro ⟨⟩
        exact ⟨[], s, specs, rfl, by simp, hg⟩
      · rintro ⟨before, spec, after, h, hbefore, hspec⟩
        cases before with
        | nil => cases h; rw [hg.eq hspec]
        | cons s' before => cases h; exact absurd hg (hbefore s List.mem_cons_self g)

theorem insertSpecs_eq_ok :
    insertSpecs d ps specs = .ok pages ↔
      ∃ given, List.Forall₂ (Page.Given d) specs given ∧ pages = ps.insertAll given := by
  induction specs generalizing ps with
  | nil =>
    constructor
    · rintro ⟨⟩
      exact ⟨[], .nil, rfl⟩
    · rintro ⟨given, ⟨⟩, rfl⟩
      rfl
  | cons spec specs ih =>
    constructor
    · intro h
      rcases given_or_fault d spec with ⟨p, hp⟩ | ⟨f, hf⟩
      · rw [insertSpecs_of_given hp] at h
        obtain ⟨given, hgiven, rfl⟩ := ih.1 h
        exact ⟨p :: given, .cons hp hgiven, rfl⟩
      · rw [insertSpecs_of_fault hf] at h
        cases h
    · rintro ⟨_, hgiven, rfl⟩
      cases hgiven with
      | cons hp hrest =>
        rw [insertSpecs_of_given hp]
        exact ih.2 ⟨_, hrest, rfl⟩

/-- Page sets are maps in the order of insertion. A list of specifications fails if and only if one
of them is malformed or names a template that cannot be read, and the failure is that of the first
such; otherwise the set renders the pages that the specifications give, each name once, where it
first came up, with the template that came last. So does a set that is empty or has the default
page, after any insertions. -/
theorem ofSpecs_keeps_order (d : Disk) (specs : List Text) :
    (∀ spec f, SpecFault d spec f ↔
      Page.Malformed spec ∧ f = .badPageSpec spec ∨
      ∃ name path e, Page.Written spec name path ∧ d.readText path = .error e ∧
        f = .templateUnreadable path e) ∧
    ((∃ f, ofSpecs d specs = .error f) ↔ ∃ spec ∈ specs, ∃ f, SpecFault d spec f) ∧
    (∀ f, ofSpecs d specs = .error f ↔
      ∃ before spec after, specs = before ++ spec :: after ∧
        (∀ s ∈ before, ∀ g, ¬SpecFault d s g) ∧ SpecFault d spec f) ∧
    (∀ pages, ofSpecs d specs = .ok pages →
      ∃ given, List.Forall₂ (Page.Given d) specs given ∧ pages.Renders given) ∧
    (∀ inserted, (empty.insertAll inserted).Renders inserted) ∧
    ∀ start inserted, ((defaultFor start).insertAll inserted).Renders
      (⟨"index", start.defaultPage⟩ :: inserted) := by
  refine ⟨fun spec f => specFault_iff, ?_, fun f => insertSpecs_eq_error, ?_, renders_insertAll,
    renders_defaultFor⟩
  · constructor
    · rintro ⟨f, h⟩
      obtain ⟨spec, hspec, hf⟩ := specFault_of_insertSpecs h
      exact ⟨spec, hspec, f, hf⟩
    · rintro ⟨spec, hspec, f, hf⟩
      cases h : ofSpecs d specs with
      | error g => exact ⟨g, rfl⟩
      | ok pages => exact absurd hf (not_specFault_of_insertSpecs h spec hspec)
  · intro pages h
    obtain ⟨given, hgiven, rfl⟩ := insertSpecs_eq_ok.1 h
    exact ⟨given, hgiven, renders_insertAll given⟩

end PageSet
end CommentDocs
