import CommentDocs.Proofs.Text.Lines
import Mathlib.Tactic.MkIffOfInductiveProp

/-!
# CommentDocs.Proofs.Text.Descriptions

The form that descriptions have: lines without blanks at their ends, each with a line end, or one
such line without a line end (`IsDescription`). The two equations `isDescription_of_not_mem` and
`isDescription_cut` go along the lines of a text; from them follow the two ways in which
descriptions are made, from lines (`isDescription_unlines`) and by putting words in front of a
description (`IsDescription.prepend`).
-/

namespace CommentDocs
namespace Text

/-! ## Ends of a text -/

/-- Text that is not empty and has no blank at its ends. -/
structure IsTrimmed (t : Text) : Prop where
  nonempty : t ≠ []
  front : ∀ c ∈ t.head?, isBlank c = false
  back : ∀ c ∈ t.getLast?, isBlank c = false

theorem isTrimmed_iff {t : Text} : IsTrimmed t ↔
    t ≠ [] ∧ t.head?.all (! isBlank ·) = true ∧ t.getLast?.all (! isBlank ·) = true := by
  simp only [Option.all_eq_true, Bool.not_eq_true']
  exact ⟨fun h => ⟨h.nonempty, h.front, h.back⟩, fun ⟨hne, hfront, hback⟩ => ⟨hne, hfront, hback⟩⟩

instance (t : Text) : Decidable (IsTrimmed t) := decidable_of_iff' _ isTrimmed_iff

theorem IsTrimmed.of_free {t : Text} (hne : t ≠ []) (h : ∀ c ∈ t, isBlank c = false) :
    IsTrimmed t where
  nonempty := hne
  front c hc := h c (List.mem_of_mem_head? hc)
  back c hc := h c (List.mem_of_mem_getLast? hc)

theorem IsTrimmed.append {s m t : Text} (hs : IsTrimmed s) (ht : IsTrimmed t) :
    IsTrimmed (s ++ m ++ t) where
  nonempty := by simp [hs.nonempty]
  front := by
    rw [List.append_assoc, List.head?_append_of_ne_nil s hs.nonempty]
    exact hs.front
  back := by
    rw [List.getLast?_append_of_ne_nil _ ht.nonempty]
    exact ht.back

theorem isInfix_trim (t : Text) : trim t <:+: t := by
  have hstart : trimStart t <:+ t := List.dropWhile_suffix isBlank
  have hend : trim t <+: trimStart t := List.rdropWhile_prefix isBlank (trimStart t)
  exact hend.isInfix.trans hstart.isInfix

theorem isTrimmed_trim {t : Text} (h : trim t ≠ []) : IsTrimmed (trim t) where
  nonempty := h
  front := by
    intro c hc
    -- The first character that is left is the first that is not blank.
    obtain ⟨rest, hrest⟩ : trim t <+: trimStart t := List.rdropWhile_prefix isBlank (trimStart t)
    have hhead : (trim t ++ rest).head? = (trim t).head? := List.head?_append_of_ne_nil _ h
    rw [← hhead, hrest] at hc
    have hne : trimStart t ≠ [] := by
      intro hnil
      rw [hnil] at hc
      cases hc
    rw [List.head?_eq_some_head hne] at hc
    cases hc
    exact List.head_dropWhile_not isBlank hne
  back := by
    intro c hc
    rw [List.getLast?_eq_some_getLast h] at hc
    cases hc
    exact isBlank_getLast (trim_trim t) h

theorem newline_not_mem_of_free {t : Text} (h : ∀ c ∈ t, isBlank c = false) : '\n' ∉ t := by
  intro hm
  exact absurd (h _ hm) (by decide)

theorem isTrimmed_intercalate {ws : List Text} (hne : ws ≠ [])
    (h : ∀ w ∈ ws, w ≠ [] ∧ ∀ c ∈ w, isBlank c = false) :
    IsTrimmed (List.intercalate " " ws) ∧ '\n' ∉ List.intercalate (" " : Text) ws := by
  induction ws with
  | nil => exact absurd rfl hne
  | cons w ws ih =>
    obtain ⟨⟨hw, hfree⟩, hws⟩ := List.forall_mem_cons.1 h
    have hnewline := newline_not_mem_of_free hfree
    cases ws with
    | nil =>
      rw [List.intercalate_singleton]
      exact ⟨.of_free hw hfree, hnewline⟩
    | cons v ws =>
      obtain ⟨htrim, hrest⟩ := ih (List.cons_ne_nil v ws) hws
      constructor
      · rw [List.intercalate_cons_cons]
        exact (IsTrimmed.of_free hw hfree).append htrim
      · rw [intercalate_space_cons_cons, List.mem_append, List.mem_cons]
        rintro (hm | hm | hm)
        · exact hnewline hm
        · cases hm
        · exact hrest hm

/-! ## Descriptions -/

/-- The form of a description. Between line ends there is trimmed text, and behind the last line end
there is none. -/
@[mk_iff]
structure IsDescription (t : Text) : Prop where
  segments : ∀ s ∈ (splitWhen (· = '\n') t).dropLast, IsTrimmed s
  last : ∀ s ∈ (splitWhen (· = '\n') t).getLast?,
    if t = [] ∨ '\n' ∈ t then s = [] else IsTrimmed s

instance (t : Text) : Decidable (IsDescription t) := decidable_of_iff' _ (isDescription_iff t)

theorem isDescription_of_not_mem {t : Text} (h : '\n' ∉ t) :
    IsDescription t ↔ t = [] ∨ IsTrimmed t := by
  rw [isDescription_iff, splitWhen_of_not_mem h]
  by_cases ht : t = []
  · simp [ht]
  · simp [ht, h]

theorem isDescription_nil : IsDescription [] := (isDescription_of_not_mem (by simp)).2 (.inl rfl)

theorem isDescription_cut {u : Text} (h : '\n' ∉ u) (v : Text) :
    IsDescription (u ++ '\n' :: v) ↔
      IsTrimmed u ∧ IsDescription v ∧ (v = [] ∨ '\n' ∈ v) := by
  have hne : splitWhen (· = '\n') v ≠ [] := splitWhen_ne_nil _ v
  rw [isDescription_iff, isDescription_iff, splitWhen_append_cons (by decide),
    splitWhen_of_not_mem h, List.singleton_append, List.dropLast_cons_of_ne_nil hne,
    List.getLast?_cons, List.getLast?_eq_some_getLast hne]
  by_cases hv : v = [] ∨ '\n' ∈ v
  · simp [hv, and_assoc]
  · obtain ⟨hnil, hnewline⟩ := not_or.1 hv
    have hlast : (splitWhen (· = '\n') v).getLast hne = v := by
      simp [splitWhen_of_not_mem hnewline]
    simp [hlast, hnil, hnewline]

theorem isDescription_unlines {ls : List Text} (h : ∀ l ∈ ls, IsTrimmed l ∧ '\n' ∉ l) :
    IsDescription (unlines ls) := by
  induction ls with
  | nil => exact isDescription_nil
  | cons l ls ih =>
    obtain ⟨⟨hl, hnewline⟩, hls⟩ := List.forall_mem_cons.1 h
    rw [unlines_cons, isDescription_cut hnewline]
    refine ⟨hl, ih hls, ?_⟩
    cases ls with
    | nil => exact .inl rfl
    | cons k ls => exact .inr (by simp [unlines_cons])

namespace IsDescription

variable {s t : Text}

theorem prepend (hs : s = [] ∨ IsTrimmed s) (hnewline : '\n' ∉ s) (h : IsDescription t) :
    IsDescription (s ++ t) := by
  rcases hs with rfl | hs
  · exact h
  · -- The text joins the first line, which may be the only one, or there may be none.
    have happend : ∀ u, IsTrimmed u → IsTrimmed (s ++ u) := fun u hu => by
      simpa using hs.append (m := []) hu
    by_cases ht : '\n' ∈ t
    · obtain ⟨u, v, rfl, hu⟩ := List.eq_append_cons_of_mem ht
      obtain ⟨hfirst, hrest⟩ := (isDescription_cut hu v).1 h
      rw [← List.append_assoc, isDescription_cut (by simp [hnewline, hu])]
      exact ⟨happend u hfirst, hrest⟩
    · rw [isDescription_of_not_mem (by simp [hnewline, ht])]
      rcases (isDescription_of_not_mem ht).1 h with rfl | ht
      · rw [List.append_nil]
        exact .inr hs
      · exact .inr (happend t ht)

theorem getLast?_eq (h : IsDescription t) (hm : '\n' ∈ t) : t.getLast? = some '\n' := by
  induction t using line_induction with
  | last t ht => exact absurd hm ht
  | cut u v hu ih =>
    obtain ⟨-, hv, hend⟩ := (isDescription_cut hu v).1 h
    rw [List.getLast?_append_of_ne_nil u (List.cons_ne_nil _ v), List.getLast?_cons]
    rcases hend with rfl | hend
    · rfl
    · rw [ih hv hend]
      rfl

theorem isTrimmed_of_mem_lines (h : IsDescription t) : ∀ l ∈ lines t, IsTrimmed l := by
  induction t using line_induction with
  | last t ht =>
    rw [lines_of_not_mem ht]
    rcases (isDescription_of_not_mem ht).1 h with rfl | htrim
    · simp
    · simpa [htrim.nonempty] using htrim
  | cut u v hu ih =>
    obtain ⟨htrim, hv, -⟩ := (isDescription_cut hu v).1 h
    have hline : IsLine u := by
      refine ⟨hu, fun hreturn => ?_⟩
      exact absurd (htrim.back '\r' hreturn) (by decide)
    rw [lines_cut hu, hline.chomp_eq]
    exact List.forall_mem_cons.2 ⟨htrim, ih hv⟩

end IsDescription

/-- Lines with line ends, a blank line, and a last line without a line end. -/
example : IsDescription "a b\nc\n" ∧ ¬IsDescription "a\n\nb\n" ∧ ¬IsDescription "a\nb" := by
  decide

end Text
end CommentDocs
