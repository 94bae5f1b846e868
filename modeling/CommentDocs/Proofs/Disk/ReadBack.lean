import CommentDocs.Disk.Basic
import Mathlib.Tactic.SplitIfs

/-!
# CommentDocs.Proofs.Disk.ReadBack

A file that has been written holds what was written (`readText_of_write`).

`Enters` says where one segment of a path leads. A walk along a path is a chain of such steps
(`walk_cons_iff`), and a disk that has grown is in the way of none of them (`Grows.walk`). Making a
directory where nothing was lets a disk grow, and so does writing a file where no directory was.
-/

namespace CommentDocs
namespace Disk

/-- One segment of a path leads from a directory to some place. -/
inductive Enters (d : Disk) (loc : Location) (segment : Text) : Location → Prop where
  | here : segment = [] ∨ segment = "." → Enters d loc segment loc
  | up : segment = ".." → Enters d loc segment loc.dropLast
  | name : ¬(segment = [] ∨ segment = ".") → segment ≠ ".." →
      Text.byteLength segment ≤ maxNameLength → d.node? (loc ++ [segment]) ≠ none →
      Enters d loc segment (loc ++ [segment])

variable {d d' : Disk} {loc loc' : Location} {segment : Text}

theorem walk_cons_iff {rest : List Text} :
    d.walk loc (segment :: rest) = .ok loc' ↔
      d.node? loc = some .dir ∧
        ∃ next, d.Enters loc segment next ∧ d.walk next rest = .ok loc' := by
  rw [walk]
  constructor
  · intro h
    split_ifs at h with hdir hhere hup hlong hnone
    · exact ⟨Classical.not_not.1 hdir, loc, .here hhere, h⟩
    · exact ⟨Classical.not_not.1 hdir, loc.dropLast, .up hup, h⟩
    · exact ⟨Classical.not_not.1 hdir, loc ++ [segment],
        .name hhere hup (Nat.le_of_not_lt hlong) hnone, h⟩
  · rintro ⟨hdir, next, hnext, h⟩
    rw [if_neg (Classical.not_not.2 hdir)]
    cases hnext with
    | here hhere => rwa [if_pos hhere]
    | up hup =>
      have hhere : ¬(segment = [] ∨ segment = ".") := by
        rw [hup]
        decide
      rwa [if_neg hhere, if_pos hup]
    | name hhere hup hlong hnone =>
      rwa [if_neg hhere, if_neg hup, if_neg (Nat.not_lt_of_le hlong), if_neg hnone]

theorem walk_append {a b : List Text} {last : Location} (ha : d.walk loc a = .ok loc')
    (hb : d.walk loc' b = .ok last) : d.walk loc (a ++ b) = .ok last := by
  induction a generalizing loc with
  | nil => cases ha; exact hb
  | cons segment a ih =>
    obtain ⟨hdir, next, hnext, ha⟩ := walk_cons_iff.1 ha
    exact walk_cons_iff.2 ⟨hdir, next, hnext, ih ha⟩

/-! ## More on the disk -/

/-- All that is on the disk `d` is on `d'` too, and directories are directories there. -/
structure Grows (d d' : Disk) : Prop where
  current_eq : d'.current = d.current
  dir : ∀ k, d.node? k = some .dir → d'.node? k = some .dir
  present : ∀ k, d.node? k ≠ none → d'.node? k ≠ none

theorem grows_putDir (d : Disk) (new : Location) : Grows d (d.putDir new) := by
  refine ⟨rfl, fun k hk => ?_, fun k hk => ?_⟩
  · rw [node?_putDir]
    split
    · rfl
    · exact hk
  · rw [node?_putDir]
    split
    · exact Option.some_ne_none _
    · exact hk

theorem grows_putFile {new : Location} {contents : Contents} (hne : new ≠ [])
    (hnew : d.node? new ≠ some .dir) : Grows d (d.putFile new contents) := by
  refine ⟨rfl, fun k hk => ?_, fun k hk => ?_⟩
  · have hother : new ≠ k := by
      rintro rfl
      exact hnew hk
    rw [node?_putFile d new k contents hne, if_neg hother, hk]
  · rw [node?_putFile d new k contents hne]
    split
    · exact Option.some_ne_none _
    · exact hk

namespace Grows

theorem refl (d : Disk) : Grows d d := ⟨rfl, fun _ h => h, fun _ h => h⟩

theorem trans {d'' : Disk} (h : Grows d d') (h' : Grows d' d'') : Grows d d'' :=
  ⟨h'.current_eq.trans h.current_eq, fun k hk => h'.dir k (h.dir k hk),
    fun k hk => h'.present k (h.present k hk)⟩

theorem enters (h : Grows d d') (hs : d.Enters loc segment loc') :
    d'.Enters loc segment loc' := by
  cases hs with
  | here hhere => exact .here hhere
  | up hup => exact .up hup
  | name hhere hup hlong hnone => exact .name hhere hup hlong (h.present _ hnone)

theorem walk {segments : List Text} (h : Grows d d') (hw : d.walk loc segments = .ok loc') :
    d'.walk loc segments = .ok loc' := by
  induction segments generalizing loc with
  | nil => exact hw
  | cons segment segments ih =>
    obtain ⟨hdir, next, hnext, hw⟩ := walk_cons_iff.1 hw
    exact walk_cons_iff.2 ⟨h.dir _ hdir, next, h.enters hnext, ih hw⟩

end Grows

/-! ## Writing -/

/-- What a write that succeeds has found and what it leaves behind. -/
theorem exists_of_write {p : Path} {t : Text} (h : d.write p t = .ok d') :
    ∃ loc name, refusal? p = none ∧ d.walk (d.start p) p.segments.dropLast = .ok loc ∧
      p.segments = p.segments.dropLast ++ [name] ∧ d.node? loc = some .dir ∧
      ¬(name = [] ∨ name = ".") ∧ name ≠ ".." ∧ Text.byteLength name ≤ maxNameLength ∧
      d.node? (loc ++ [name]) ≠ some .dir ∧ d' = d.putFile (loc ++ [name]) (.text t) := by
  have hsegments : p.segments = p.segments.dropLast ++ [p.segments.getLastD []] := by
    have hne : p.segments ≠ [] := Text.splitWhen_ne_nil _ p
    rw [List.getLastD_eq_getLast?, List.getLast?_eq_some_getLast hne, Option.getD_some,
      List.dropLast_concat_getLast]
  rw [write, parent] at h
  cases hr : refusal? p with
  | some e => rw [hr] at h; cases h
  | none =>
    cases hw : d.walk (d.start p) p.segments.dropLast with
    | error e => simp only [hr, hw] at h; cases h
    | ok loc =>
      by_cases hloc : d.node? loc = some .dir
      · simp only [hr, hw, if_pos hloc] at h
        split_ifs at h with hname hlong hdir
        cases h
        rw [← or_assoc, not_or] at hname
        exact ⟨loc, _, rfl, rfl, hsegments, hloc, hname.1, hname.2, Nat.le_of_not_lt hlong, hdir,
          rfl⟩
      · simp only [hr, hw, if_neg hloc] at h
        cases h

/-- A write that succeeds puts a file where its path then leads. -/
theorem resolve_of_write {p : Path} {t : Text} (h : d.write p t = .ok d') :
    ∃ new, d'.resolve p = .ok new ∧ new ≠ [] ∧ d.node? new ≠ some .dir ∧
      d' = d.putFile new (.text t) := by
  obtain ⟨loc, name, hrefusal, hwalk, hsegments, hloc, hhere, hup, hlong, hdir, rfl⟩ :=
    exists_of_write h
  have hne : loc ++ [name] ≠ [] := by simp
  have hgrows : Grows d (d.putFile (loc ++ [name]) (.text t)) := grows_putFile hne hdir
  refine ⟨loc ++ [name], ?_, hne, hdir, rfl⟩
  have hnode : (d.putFile (loc ++ [name]) (.text t)).node? (loc ++ [name]) =
      some (.file (.text t)) := by
    rw [node?_putFile d _ _ _ hne, if_pos rfl]
  have hname : (d.putFile (loc ++ [name]) (.text t)).Enters loc name (loc ++ [name]) := by
    refine .name hhere hup hlong ?_
    rw [hnode]
    exact Option.some_ne_none _
  have hlast : (d.putFile (loc ++ [name]) (.text t)).walk loc [name] = .ok (loc ++ [name]) :=
    walk_cons_iff.2 ⟨hgrows.dir loc hloc, _, hname, rfl⟩
  have hstart : (d.putFile (loc ++ [name]) (.text t)).start p = d.start p := rfl
  rw [resolve, hrefusal, hsegments]
  simp only [hstart]
  exact walk_append (hgrows.walk hwalk) hlast

theorem readText_of_node? {p : Path} {t : Text} (hr : d.resolve p = .ok loc)
    (hnode : d.node? loc = some (.file (.text t))) : d.readText p = .ok t := by
  rw [readText, hr]
  simp only [hnode]

theorem readText_of_write {p : Path} {t : Text} (h : d.write p t = .ok d') :
    d'.readText p = .ok t := by
  obtain ⟨new, hresolve, hne, _, rfl⟩ := resolve_of_write h
  refine readText_of_node? hresolve ?_
  rw [node?_putFile d new new _ hne, if_pos rfl]

end Disk
end CommentDocs
