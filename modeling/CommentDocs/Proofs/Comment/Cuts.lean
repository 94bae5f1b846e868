import CommentDocs.Comment
import CommentDocs.Proofs.Text.Replacement
import Mathlib.Data.List.Infix

/-!
# CommentDocs.Proofs.Comment.Cuts

The two cuts that find comments: at all opening markers, and at the first closing marker of a piece.
Each is described character by character, then at a marker (`splitOpen_append_marker`,
`untilClose_append_closes`) and behind a text that is free of markers (`splitOpen_append_free`).
-/

namespace CommentDocs
namespace Comment

def Opens (t : Text) : Prop := ("/**" : Text) <+: t

instance (t : Text) : Decidable (Opens t) := inferInstanceAs (Decidable (("/**" : Text) <+: t))

theorem Opens.exists_eq {t : Text} (h : Opens t) : ∃ rest, t = '/' :: '*' :: '*' :: rest := by
  obtain ⟨rest, rfl⟩ := h
  exact ⟨rest, rfl⟩

theorem exists_eq_of_close {t : Text} (h : ("*/" : Text) <+: t) :
    ∃ rest, t = '*' :: '/' :: rest := by
  obtain ⟨rest, rfl⟩ := h
  exact ⟨rest, rfl⟩

/-- Text that neither opens nor closes a comment. -/
structure Unmarked (t : Text) : Prop where
  not_opens : ¬("/**" : Text) <:+: t
  not_closes : ¬("*/" : Text) <:+: t

instance (t : Text) : Decidable (Unmarked t) :=
  decidable_of_iff (¬("/**" : Text) <:+: t ∧ ¬("*/" : Text) <:+: t)
    ⟨fun ⟨h1, h2⟩ => ⟨h1, h2⟩, fun h => ⟨h.not_opens, h.not_closes⟩⟩

theorem Unmarked.of_isInfix {s t : Text} (h : Unmarked t) (hs : s <:+: t) : Unmarked s :=
  ⟨fun hm => h.not_opens (hm.trans hs), fun hm => h.not_closes (hm.trans hs)⟩

/-! ## Character by character -/

theorem splitOpen_opens (t : Text) :
    splitOpen ('/' :: '*' :: '*' :: t) = ([], (splitOpen t).1 :: (splitOpen t).2) := by
  rw [splitOpen]

theorem splitOpen_cons {c : Char} {t : Text} (h : ¬Opens (c :: t)) :
    splitOpen (c :: t) = (c :: (splitOpen t).1, (splitOpen t).2) := by
  rw [splitOpen]
  rintro u rfl rfl
  exact h ⟨u, rfl⟩

theorem untilClose_closes (t : Text) : untilClose ('*' :: '/' :: t) = [] := by
  rw [untilClose]

theorem untilClose_cons {c : Char} {t : Text} (h : ¬("*/" : Text) <+: c :: t) :
    untilClose (c :: t) = c :: untilClose t := by
  rw [untilClose]
  rintro u rfl rfl
  exact h ⟨u, rfl⟩

/-! ## Up to a marker -/

theorem splitOpen_of_free {t : Text} (h : ¬("/**" : Text) <:+: t) : splitOpen t = (t, []) := by
  induction t with
  | nil => rfl
  | cons c t ih =>
    have ho : ¬Opens (c :: t) := fun ho => h ho.isInfix
    have ht : ¬("/**" : Text) <:+: t := fun ht => h (List.infix_cons_iff.2 (.inr ht))
    rw [splitOpen_cons ho, ih ht]

/-- A text is cut at each of its opening markers on its own. -/
theorem splitOpen_append_marker (u t : Text) :
    splitOpen (u ++ '/' :: '*' :: '*' :: t) =
      ((splitOpen u).1, (splitOpen u).2 ++ (splitOpen t).1 :: (splitOpen t).2) := by
  have hne : ("/**" : Text) ≠ [] := by decide
  induction u using Text.occurrence_induction hne with
  | nil => exact splitOpen_opens t
  | hit u ih =>
    have hcut : ("/**" : Text) ++ u = '/' :: '*' :: '*' :: u := rfl
    rw [hcut, List.cons_append, List.cons_append, List.cons_append, splitOpen_opens, ih,
      splitOpen_opens, List.cons_append]
  | char c u hc ih =>
    have ho : ¬Opens (c :: (u ++ '/' :: '*' :: '*' :: t)) := by
      intro ho
      rcases Text.prefix_or_straddles (List.cons_ne_nil c u) ho with h | h
      · exact hc h
      · exact Text.Apart.not_straddles_left (w := "/**") (by decide) _ _ h
    rw [List.cons_append, splitOpen_cons ho, ih, splitOpen_cons hc]

/-- A text without opening markers goes on into the first piece of what follows it, unless a marker
arises between the two. -/
theorem splitOpen_append_free {x y : Text} (h : ¬("/**" : Text) <:+: x)
    (hs : ¬Text.Straddles "/**" x y) :
    splitOpen (x ++ y) = (x ++ (splitOpen y).1, (splitOpen y).2) := by
  induction x with
  | nil => rfl
  | cons c x ih =>
    have hx : ¬("/**" : Text) <:+: x := fun hx => h (List.infix_cons_iff.2 (.inr hx))
    have hsx : ¬Text.Straddles "/**" x y := fun hsx => hs (hsx.of_suffix (List.suffix_cons c x))
    have ho : ¬Opens (c :: (x ++ y)) := by
      intro ho
      rcases Text.prefix_or_straddles (List.cons_ne_nil c x) ho with ho | ho
      · exact h ho.isInfix
      · exact hs ho
    rw [List.cons_append, splitOpen_cons ho, ih hx hsx, List.cons_append]

theorem splitOpen_append_opens {x : Text} (h : ¬("/**" : Text) <:+: x) (y : Text) :
    splitOpen (x ++ '/' :: '*' :: '*' :: y) = (x, (splitOpen y).1 :: (splitOpen y).2) := by
  rw [splitOpen_append_marker, splitOpen_of_free h, List.nil_append]

theorem exists_last_marker {t : Text} (h : ("/**" : Text) <:+: t) :
    ∃ u v, t = u ++ '/' :: '*' :: '*' :: v ∧ ¬("/**" : Text) <:+: v := by
  induction t with
  | nil => exact absurd (List.infix_nil.1 h) (by decide)
  | cons c t ih =>
    by_cases ht : ("/**" : Text) <:+: t
    · obtain ⟨u, v, rfl, hv⟩ := ih ht
      exact ⟨c :: u, v, rfl, hv⟩
    · have ho : Opens (c :: t) := (List.infix_cons_iff.1 h).resolve_right ht
      obtain ⟨v, hv⟩ := ho.exists_eq
      refine ⟨[], v, hv, fun hi => ht ?_⟩
      rw [(List.cons.inj hv).2]
      exact hi.trans (List.suffix_append ['*', '*'] v).isInfix

theorem untilClose_append_closes {x : Text} (h : ¬("*/" : Text) <:+: x) (y : Text) :
    untilClose (x ++ '*' :: '/' :: y) = x := by
  induction x with
  | nil => exact untilClose_closes y
  | cons c x ih =>
    have hx : ¬("*/" : Text) <:+: x := fun hx => h (List.infix_cons_iff.2 (.inr hx))
    have hc : ¬("*/" : Text) <+: c :: (x ++ '*' :: '/' :: y) := by
      intro hc
      obtain ⟨rest, hrest⟩ := exists_eq_of_close hc
      cases x with
      | nil => cases hrest
      | cons d x =>
        cases hrest
        exact h (List.IsPrefix.isInfix ⟨x, rfl⟩)
    rw [List.cons_append, untilClose_cons hc, ih hx]

theorem untilClose_of_free {t : Text} (h : ¬("*/" : Text) <:+: t) : untilClose t = t := by
  induction t with
  | nil => rfl
  | cons c t ih =>
    have hc : ¬("*/" : Text) <+: c :: t := fun hc => h hc.isInfix
    have ht : ¬("*/" : Text) <:+: t := fun ht => h (List.infix_cons_iff.2 (.inr ht))
    rw [untilClose_cons hc, ih ht]

theorem untilClose_append_of_closed {x : Text} (h : ("*/" : Text) <:+: x) (y : Text) :
    untilClose (x ++ y) = untilClose x := by
  induction x with
  | nil => exact absurd (List.infix_nil.1 h) (by decide)
  | cons c x ih =>
    by_cases hc : ("*/" : Text) <+: c :: x
    · obtain ⟨rest, hrest⟩ := exists_eq_of_close hc
      rw [hrest, List.cons_append, List.cons_append, untilClose_closes, untilClose_closes]
    · have hx : ("*/" : Text) <:+: x := (List.infix_cons_iff.1 h).resolve_left hc
      -- The marker in `x` leaves no room for one that reaches into `y`.
      have hcy : ¬("*/" : Text) <+: c :: (x ++ y) := by
        intro hcy
        refine hc (List.prefix_of_prefix_length_le hcy (List.prefix_append (c :: x) y) ?_)
        have := hx.length_le
        rw [List.length_cons]
        omega
      rw [List.cons_append, untilClose_cons hcy, untilClose_cons hc, ih hx]

end Comment
end CommentDocs
