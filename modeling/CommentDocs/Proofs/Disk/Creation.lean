import CommentDocs.Proofs.Disk.Places
import Mathlib.Data.List.DropRight

/-!
# CommentDocs.Proofs.Disk.Creation

Making a directory with those above it. Whether it succeeds or not, it changes a disk in one way
only: places where nothing was become directories, and these are places that beginnings of the path
name (`AddsDirs`, `addsDirs_makeDirs`). If it succeeds, the path is that of a directory
(`isDir_of_makeDirs`).
-/

namespace CommentDocs
namespace Disk

variable {d d' : Disk} {p : Path} {loc : Location}

/-! ## One directory -/

theorem walk_blanks {segments : List Text} (hblank : ∀ s ∈ segments, s = ([] : Text))
    (hdir : d.node? loc = some .dir) : d.walk loc segments = .ok loc := by
  induction segments with
  | nil => rfl
  | cons segment segments ih =>
    have hhere : segment = [] := hblank segment (List.mem_cons_self ..)
    have hrest := ih fun s hs => hblank s (List.mem_cons_of_mem _ hs)
    exact walk_cons_iff.2 ⟨hdir, loc, .here (.inl hhere), hrest⟩

theorem filterMap_blanks {segments : List Text} (hblank : ∀ s ∈ segments, s = ([] : Text)) :
    segments.filterMap Path.component? = [] := by
  refine List.filterMap_eq_nil_iff.2 fun s hs => ?_
  rw [hblank s hs]
  rfl

/-- What making a directory finds, if it succeeds, and what it leaves behind: the segments in front
of the last name lead to a directory, and nothing but slashes stands behind that name. -/
theorem exists_of_makeDir (h : d.makeDir p = .ok d') :
    ∃ loc front name blanks, refusal? p = none ∧ p.segments = front ++ name :: blanks ∧
      (∀ s ∈ blanks, s = ([] : Text)) ∧ d.walk (d.start p) front = .ok loc ∧
      d.node? loc = some .dir ∧ ¬(name = [] ∨ name = ".") ∧ name ≠ ".." ∧
      Text.byteLength name ≤ maxNameLength ∧ d.node? (loc ++ [name]) = none ∧
      d' = d.putDir (loc ++ [name]) := by
  have hcut : p.segments.rdropWhile (· = []) ++ p.segments.rtakeWhile (· = []) = p.segments :=
    List.rdropWhile_append_rtakeWhile
  have hblank : ∀ s ∈ p.segments.rtakeWhile (· = []), s = ([] : Text) := by
    intro s hs
    simpa using List.mem_rtakeWhile_imp hs
  have hlast := List.rdropWhile_last_not (· = []) p.segments
  have hdef : (p.segments.reverse.dropWhile (· = [])).reverse =
    p.segments.rdropWhile (· = []) := rfl
  simp only [makeDir, parent, hdef] at h
  generalize p.segments.rdropWhile (· = []) = segments at h hcut hlast
  cases hr : refusal? p with
  | some e => simp [hr] at h
  | none =>
    cases hw : d.walk (d.start p) segments.dropLast with
    | error e => simp [hr, hw] at h
    | ok loc =>
      by_cases hloc : d.node? loc = some .dir
      · cases hn : segments.getLast? with
        | none => simp [hr, hw, hloc, hn] at h
        | some name =>
          obtain ⟨front, rfl⟩ := List.getLast?_eq_some_iff.1 hn
          have hname : name ≠ [] := by simpa using hlast (by simp)
          simp only [hr, hw, if_pos hloc, hn] at h
          split_ifs at h with hdot hlong hnone
          cases h
          rw [not_or] at hdot
          rw [List.dropLast_concat] at hw
          refine ⟨loc, front, name, _, rfl, ?_, hblank, hw, hloc, ?_, hdot.2, ?_, ?_, rfl⟩
          · simpa using hcut.symm
          · exact not_or.2 ⟨hname, hdot.1⟩
          · exact Nat.le_of_not_lt hlong
          · exact Classical.not_not.1 hnone
      · simp [hr, hw, hloc] at h

/-- A directory that is made stands where its path then leads, and nothing was there before. -/
theorem makeDir_eq_ok (h : d.makeDir p = .ok d') :
    d.node? (d.place p.components) = none ∧ d' = d.putDir (d.place p.components) ∧
      d'.isDir p = true := by
  obtain ⟨loc, front, name, blanks, hrefusal, hsegments, hblank, hwalk, hloc, hhere, hup, hlong,
    hnone, rfl⟩ := exists_of_makeDir h
  have hnew : d.place p.components = loc ++ [name] := by
    have hname : Path.component? name = some (.name name) := by
      rw [Path.component?, if_neg hhere, if_neg hup]
    rw [place_components, Path.steps, hsegments, List.filterMap_append,
      List.filterMap_cons_some hname, filterMap_blanks hblank, List.foldl_append,
      ← walk_eq_foldl hwalk]
    rfl
  have hgrows := grows_putDir d (loc ++ [name])
  have hnode : (d.putDir (loc ++ [name])).node? (loc ++ [name]) = some .dir := by
    rw [node?_putDir, if_pos rfl]
  have hresolve : (d.putDir (loc ++ [name])).resolve p = .ok (loc ++ [name]) := by
    refine resolve_eq_ok.2 ⟨hrefusal, ?_⟩
    rw [hsegments]
    refine walk_append (hgrows.walk hwalk) (walk_cons_iff.2 ⟨hgrows.dir loc hloc, ?_⟩)
    exact ⟨loc ++ [name], .name hhere hup hlong (by simp [hnode]), walk_blanks hblank hnode⟩
  rw [hnew]
  refine ⟨hnone, rfl, isDir_iff.2 ?_⟩
  rw [hgrows.place_eq, hnew]
  exact ⟨hresolve, hnode⟩

/-! ## All that are missing -/

/-- The disk `d'` is `d` with some directories more. Each stands where nothing was, at a place that
one of the paths names. -/
structure AddsDirs (d : Disk) (paths : List Path) (d' : Disk) : Prop where
  current_eq : d'.current = d.current
  node : ∀ k, d'.node? k = d.node? k ∨
    (d.node? k = none ∧ d'.node? k = some .dir ∧ ∃ p ∈ paths, k = d.place p.components)

namespace AddsDirs

variable {paths : List Path} {d'' : Disk}

theorem refl (d : Disk) (paths : List Path) : AddsDirs d paths d := ⟨rfl, fun _ => .inl rfl⟩

theorem grows (h : AddsDirs d paths d') : Grows d d' := by
  refine ⟨h.current_eq, fun k hk => ?_, fun k hk => ?_⟩
  · rcases h.node k with he | ⟨_, hdir, _⟩
    · rw [he, hk]
    · exact hdir
  · rcases h.node k with he | ⟨hnone, _, _⟩
    · rwa [he]
    · exact absurd hnone hk

theorem mono {more : List Path} (h : AddsDirs d paths d') (hsub : paths ⊆ more) :
    AddsDirs d more d' := by
  refine ⟨h.current_eq, fun k => (h.node k).imp_right ?_⟩
  rintro ⟨hnone, hdir, p, hp, hk⟩
  exact ⟨hnone, hdir, p, hsub hp, hk⟩

theorem trans (h : AddsDirs d paths d') (h' : AddsDirs d' paths d'') : AddsDirs d paths d'' := by
  refine ⟨h'.current_eq.trans h.current_eq, fun k => ?_⟩
  rcases h'.node k with he | ⟨hnone, hdir, p, hp, hk⟩
  · rw [he]
    exact h.node k
  · right
    rw [h.grows.place_eq] at hk
    rcases h.node k with he | ⟨hnone', _, _⟩
    · exact ⟨by rw [← he, hnone], hdir, p, hp, hk⟩
    · exact ⟨hnone', hdir, p, hp, hk⟩

theorem makeDir (hp : p ∈ paths) (h : d.makeDir p = .ok d') : AddsDirs d paths d' := by
  obtain ⟨hnone, rfl, _⟩ := makeDir_eq_ok h
  refine ⟨rfl, fun k => ?_⟩
  rw [node?_putDir]
  split
  · rename_i hk
    subst hk
    exact .inr ⟨hnone, rfl, p, hp, rfl⟩
  · exact .inl rfl

end AddsDirs

theorem addsDirs_makeDirFrom (d : Disk) (paths : List Path) :
    AddsDirs d paths (d.makeDirFrom paths).2 := by
  induction paths with
  | nil => exact .refl d []
  | cons p above ih =>
    rw [makeDirFrom]
    cases hp : d.makeDir p with
    | ok made => exact .makeDir (List.mem_cons_self ..) hp
    | error e =>
      cases e with
      | notFound =>
        have habove := ih.mono (List.subset_cons_self p above)
        cases hm : d.makeDirFrom above with
        | mk failure made =>
          rw [hm] at habove
          cases failure with
          | some e => exact habove
          | none =>
            cases hagain : made.makeDir p with
            | ok last =>
              simp only [hagain]
              exact habove.trans (.makeDir (List.mem_cons_self ..) hagain)
            | error e =>
              simp only [hagain]
              exact habove
      | _ => exact .refl d _

theorem isDir_of_makeDirFrom {above : List Path} (h : d.makeDirFrom (p :: above) = (none, d')) :
    d'.isDir p = true := by
  rw [makeDirFrom] at h
  split at h
  · rename_i hmade
    cases h
    exact (makeDir_eq_ok hmade).2.2
  · split at h
    · cases h
    · split at h
      · rename_i hmade
        cases h
        exact (makeDir_eq_ok hmade).2.2
      · split at h
        · rename_i hdir
          cases h
          exact hdir
        · cases h
  · split at h
    · rename_i hdir
      cases h
      exact hdir
    · cases h

theorem isDir_of_makeDirs (h : d.makeDirs p = (none, d')) : d'.isDir p = true :=
  isDir_of_makeDirFrom h

theorem addsDirs_makeDirs (d : Disk) (p : Path) :
    AddsDirs d (p :: p.parents) (d.makeDirs p).2 := addsDirs_makeDirFrom d _

theorem node?_makeDirs (d : Disk) (p : Path) (k : Location) :
    (d.makeDirs p).2.node? k = d.node? k ∨
      (d.node? k = none ∧ (d.makeDirs p).2.node? k = some .dir ∧
        ∃ n, 0 < n ∧ k = d.place (p.components.take n)) := by
  refine ((addsDirs_makeDirs d p).node k).imp_right ?_
  rintro ⟨hnone, hdir, q, hq, rfl⟩
  refine ⟨hnone, hdir, ?_⟩
  rcases List.mem_cons.1 hq with rfl | hq
  · exact ⟨q.components.length + 1, Nat.succ_pos _, by rw [List.take_of_length_le (by omega)]⟩
  · obtain ⟨n, hn, hcomponents⟩ := Path.components_of_mem_parents hq
    exact ⟨n, hn, by rw [hcomponents]⟩

end Disk
end CommentDocs
