import CommentDocs.Disk.Path
import CommentDocs.Proofs.Listing.Sorted

/-!
# CommentDocs.Proofs.Disk.Arrangement

Paths arranged in order, each once. The result is strictly increasing (`increasing_arrange`), and it
holds the given paths and no others, as far as paths are told apart by their components
(`mem_of_mem_arrange`, `exists_mem_arrange`). There is only one such list of components
(`Sorting.eq_of_increasing`).
-/

namespace CommentDocs

theorem Sorting.eq_of_increasing {κ : Type} [Ord κ] [Std.TransOrd κ] {xs ys : List κ}
    (hx : xs.Pairwise fun a b => compare a b = .lt) (hy : ys.Pairwise fun a b => compare a b = .lt)
    (h : ∀ a, a ∈ xs ↔ a ∈ ys) : xs = ys := by
  have hnodup : ∀ {zs : List κ}, (zs.Pairwise fun a b => compare a b = .lt) → zs.Nodup := by
    intro zs hz
    refine hz.imp ?_
    rintro a b hab rfl
    simp at hab
  have hperm : xs.Perm ys := (List.perm_ext_iff_of_nodup (hnodup hx) (hnodup hy)).2 h
  refine List.Perm.eq_of_pairwise ?_ hx hy hperm
  intro a b _ _ hab hba
  exact absurd hba (Std.OrientedCmp.not_lt_of_lt hab)

namespace Path

variable {p q : Path} {ps qs : List Path}

theorem order_congr {p' q' : Path} (hp : components p = components p')
    (hq : components q = components q') : order p q = order p' q' := by
  rw [order, compareOn, compareOn, hp, hq]

/-- One more path in front of those that have been gone through: it replaces their first if that is
the same path, and otherwise stands before it. -/
theorem dedup_cons (p : Path) (ps : List Path) :
    (dedup (p :: ps) = p :: dedup ps ∧
      ∀ q qs, dedup ps = q :: qs → components p ≠ components q) ∨
    ∃ q qs, dedup ps = q :: qs ∧ components p = components q ∧ dedup (p :: ps) = p :: qs := by
  rw [dedup]
  cases dedup ps with
  | nil => exact .inl ⟨rfl, by simp⟩
  | cons q qs =>
    by_cases hpq : components p = components q
    · exact .inr ⟨q, qs, rfl, hpq, by simp [hpq]⟩
    · refine .inl ⟨by simp [hpq], ?_⟩
      rintro _ _ ⟨⟩
      exact hpq

theorem dedup_sublist (ps : List Path) : (dedup ps).Sublist ps := by
  induction ps with
  | nil => exact .slnil
  | cons p ps ih =>
    rcases dedup_cons p ps with ⟨h, _⟩ | ⟨q, qs, hrest, _, h⟩
    · rw [h]
      exact ih.cons_cons p
    · rw [hrest] at ih
      rw [h]
      exact (List.sublist_of_cons_sublist ih).cons_cons p

theorem exists_mem_dedup (h : p ∈ ps) : ∃ q ∈ dedup ps, components q = components p := by
  induction ps with
  | nil => cases h
  | cons first ps ih =>
    have hkeeps : first ∈ dedup (first :: ps) ∧
        ∀ q ∈ dedup ps, ∃ r ∈ dedup (first :: ps), components r = components q := by
      rcases dedup_cons first ps with ⟨hd, _⟩ | ⟨q, qs, hrest, hpq, hd⟩
      · rw [hd]
        exact ⟨List.mem_cons_self .., fun q hq => ⟨q, List.mem_cons_of_mem first hq, rfl⟩⟩
      · rw [hd, hrest]
        refine ⟨List.mem_cons_self .., List.forall_mem_cons.2 ⟨?_, fun r hr => ?_⟩⟩
        · exact ⟨first, List.mem_cons_self .., hpq⟩
        · exact ⟨r, List.mem_cons_of_mem first hr, rfl⟩
    rcases List.mem_cons.1 h with rfl | h
    · exact ⟨p, hkeeps.1, rfl⟩
    · obtain ⟨q, hq, hqp⟩ := ih h
      obtain ⟨r, hr, hrq⟩ := hkeeps.2 q hq
      exact ⟨r, hr, hrq.trans hqp⟩

theorem increasing_dedup (h : ps.Pairwise fun p q => (order p q).isLE = true) :
    (dedup ps).Pairwise fun p q => order p q = .lt := by
  induction ps with
  | nil => exact .nil
  | cons p ps ih =>
    obtain ⟨hp, hps⟩ := List.pairwise_cons.1 h
    have hrest := ih hps
    rcases dedup_cons p ps with ⟨hd, hne⟩ | ⟨q, qs, hq, hpq, hd⟩
    · rw [hd]
      refine List.pairwise_cons.2 ⟨?_, hrest⟩
      -- The path is before the first of the others, and that one is before the rest.
      cases hfirst : dedup ps with
      | nil => simp
      | cons q qs =>
        rw [hfirst] at hrest
        have hmem : q ∈ dedup ps := hfirst ▸ List.mem_cons_self ..
        have hle := hp q ((dedup_sublist ps).subset hmem)
        have hlt : order p q = .lt := by
          cases ho : order p q with
          | lt => rfl
          | eq => exact absurd (order_eq_eq.1 ho) (hne q qs hfirst)
          | gt => rw [ho] at hle; cases hle
        exact List.forall_mem_cons.2 ⟨hlt, fun r hr =>
          Std.TransCmp.lt_trans hlt ((List.pairwise_cons.1 hrest).1 r hr)⟩
    · rw [hd]
      rw [hq] at hrest
      obtain ⟨hqs, hrest⟩ := List.pairwise_cons.1 hrest
      refine List.pairwise_cons.2 ⟨fun r hr => ?_, hrest⟩
      rw [order_congr hpq rfl]
      exact hqs r hr

/-! ## Arranging -/

theorem increasing_arrange (ps : List Path) :
    (arrange ps).Pairwise fun p q => order p q = .lt :=
  increasing_dedup (Sorting.pairwise_sort order ps)

theorem mem_of_mem_arrange (h : p ∈ arrange ps) : p ∈ ps :=
  Sorting.mem_sort.1 ((dedup_sublist _).subset h)

theorem exists_mem_arrange (h : p ∈ ps) : ∃ q ∈ arrange ps, components q = components p :=
  exists_mem_dedup (Sorting.mem_sort.2 h)

/-- Slashes and dots in the middle do not tell paths apart, a dot in front does. -/
example : arrange ["s/./a.js", "./s/a.js", "s//a.js"] = ["./s/a.js", "s/./a.js"] := by
  decide +kernel

end Path
end CommentDocs
