import CommentDocs.Text.Scan
import Mathlib.Data.List.Infix

/-!
# CommentDocs.Proofs.Text.Replacement

Replacing one text by another. `replace_append_old` and `replace_cons` say how a replacement runs
over a text, and `occurrence_induction` goes through a text in the same way.

A replacement may be made on both sides of a place on its own unless an occurrence reaches over that
place (`replace_append`). `Apart` is a test on two short texts which excludes this around the second
of them, whatever text it stands in (`replace_around`). `StartsNowhere` says less, that no
occurrence starts in a text, and lets a replacement skip it (`replace_append_of_startsNowhere`).
-/

namespace CommentDocs
namespace Text

@[simp] theorem replace_nil (old new : Text) : replace old new [] = [] := rfl

theorem replace_append_old {old : Text} (h : old ≠ []) (new t : Text) :
    replace old new (old ++ t) = new ++ replace old new t := by
  have hrule : literal old new (old ++ t) = some (old.length, new) := by
    rw [literal, if_pos (List.isPrefixOf_iff_prefix.2 (List.prefix_append old t))]
  rw [replace, pieces_match h hrule, List.flatMap_cons]
  rfl

theorem replace_cons {old : Text} {c : Char} {t : Text} (h : ¬old <+: c :: t) (new : Text) :
    replace old new (c :: t) = c :: replace old new t := by
  have hrule : literal old new (c :: t) = none := by
    rw [literal, if_neg (fun hp => h (List.isPrefixOf_iff_prefix.1 hp))]
  rw [replace, pieces_char hrule, List.flatMap_cons]
  rfl

theorem occurrence_induction {old : Text} (ho : old ≠ []) {P : Text → Prop} (nil : P [])
    (hit : ∀ t, P t → P (old ++ t)) (char : ∀ c t, ¬old <+: c :: t → P t → P (c :: t)) (t : Text) :
    P t := by
  induction hn : t.length using Nat.strongRecOn generalizing t with
  | ind n ih =>
    cases t with
    | nil => exact nil
    | cons c t =>
      by_cases h : old <+: c :: t
      · obtain ⟨s, hs⟩ := h
        have hlen := congrArg List.length hs
        have hpos := List.length_pos_iff.2 ho
        rw [List.length_append] at hlen
        rw [← hs]
        exact hit s (ih s.length (by omega) s rfl)
      · rw [List.length_cons] at hn
        exact char c t h (ih t.length (by omega) t rfl)

theorem replace_singleton (x : Char) (new t : Text) :
    replace [x] new t = t.flatMap fun c => if c = x then new else [c] := by
  induction t with
  | nil => rfl
  | cons c t ih =>
    rw [List.flatMap_cons, ← ih]
    by_cases hc : c = x
    · subst hc
      rw [if_pos rfl]
      exact replace_append_old (List.cons_ne_nil c []) new t
    · have hp : ¬[x] <+: c :: t := by simp [List.cons_prefix_cons, Ne.symm hc]
      rw [if_neg hc, replace_cons hp, List.singleton_append]

theorem replace_of_not_infix {old t : Text} (h : ¬old <:+: t) (new : Text) :
    replace old new t = t := by
  induction t with
  | nil => rfl
  | cons c t ih =>
    rw [replace_cons (fun hp => h hp.isInfix), ih]
    exact fun hi => h (hi.trans (List.suffix_cons c t).isInfix)

/-! ## Both sides of a place -/

/-- Some occurrence of `old` starts in `x` and ends in `y`. -/
def Straddles (old x y : Text) : Prop :=
  ∃ u v, u ≠ [] ∧ v ≠ [] ∧ old = u ++ v ∧ u <:+ x ∧ v <+: y

theorem Straddles.of_suffix {old x x' y : Text} (h : Straddles old x' y) (hx : x' <:+ x) :
    Straddles old x y := by
  obtain ⟨u, v, hu, hv, hold, hux, hvy⟩ := h
  exact ⟨u, v, hu, hv, hold, hux.trans hx, hvy⟩

/-- No occurrence reaches over a place behind a character that it has not itself. -/
theorem not_straddles_concat {d : Char} {old : Text} (hd : d ∉ old) (x y : Text) :
    ¬Straddles old (x ++ [d]) y := by
  rintro ⟨u, v, hu, _, rfl, hux, _⟩
  rw [List.suffix_concat_iff] at hux
  rcases hux with rfl | ⟨u', rfl, _⟩
  · exact hu rfl
  · exact hd (by simp)

theorem prefix_or_straddles {old x y : Text} (hx : x ≠ []) (h : old <+: x ++ y) :
    old <+: x ∨ Straddles old x y := by
  rcases List.prefix_or_prefix_of_prefix h (List.prefix_append x y) with h' | ⟨v, rfl⟩
  · exact .inl h'
  · cases v with
    | nil => left; simp
    | cons d v =>
      have hv : d :: v <+: y := (List.prefix_append_right_inj x).1 h
      exact .inr ⟨x, d :: v, hx, by simp, rfl, List.suffix_rfl, hv⟩

theorem replace_append {old x y : Text} (ho : old ≠ []) (h : ¬Straddles old x y) (new : Text) :
    replace old new (x ++ y) = replace old new x ++ replace old new y := by
  induction x using occurrence_induction ho with
  | nil => rfl
  | hit x ih =>
    have hx : ¬Straddles old x y := fun hs => h (hs.of_suffix (List.suffix_append old x))
    rw [List.append_assoc, replace_append_old ho, replace_append_old ho, ih hx, List.append_assoc]
  | char c x hc ih =>
    have hx : ¬Straddles old x y := fun hs => h (hs.of_suffix (List.suffix_cons c x))
    have hcy : ¬old <+: c :: (x ++ y) := by
      intro hp
      rcases prefix_or_straddles (List.cons_ne_nil c x) hp with hp | hs
      · exact hc hp
      · exact h hs
    rw [List.cons_append, replace_cons hcy, replace_cons hc, ih hx, List.cons_append]

/-! ## Texts that keep apart -/

/-- No occurrence of `old` can begin outside a text `w` and end inside it, or the other way round:
wherever `old` is cut in two, neither part fits the end of `w` that it would have to fit. -/
def Apart (old w : Text) : Prop :=
  ∀ n < old.length, 0 < n →
    ¬old.take n <:+ w ∧ ¬w <:+ old.take n ∧ ¬old.drop n <+: w ∧ ¬w <+: old.drop n

instance (old w : Text) : Decidable (Apart old w) :=
  inferInstanceAs (Decidable (∀ n < old.length, 0 < n →
    ¬old.take n <:+ w ∧ ¬w <:+ old.take n ∧ ¬old.drop n <+: w ∧ ¬w <+: old.drop n))

theorem Apart.of_eq_append {old w u v : Text} (h : Apart old w) (hu : u ≠ []) (hv : v ≠ [])
    (ho : old = u ++ v) : ¬u <:+ w ∧ ¬w <:+ u ∧ ¬v <+: w ∧ ¬w <+: v := by
  have hup := List.length_pos_iff.2 hu
  have hvp := List.length_pos_iff.2 hv
  have := h u.length (by rw [ho, List.length_append]; omega) hup
  rwa [ho, List.take_left' rfl, List.drop_left' rfl] at this

theorem Apart.not_straddles_left {old w : Text} (h : Apart old w) (a c : Text) :
    ¬Straddles old a (w ++ c) := by
  rintro ⟨u, v, hu, hv, ho, _, hvw⟩
  obtain ⟨_, _, h1, h2⟩ := h.of_eq_append hu hv ho
  rcases List.prefix_or_prefix_of_prefix hvw (List.prefix_append w c) with h | h
  · exact h1 h
  · exact h2 h

theorem Apart.not_straddles_right {old w : Text} (h : Apart old w) (a c : Text) :
    ¬Straddles old (a ++ w) c := by
  rintro ⟨u, v, hu, hv, ho, huw, _⟩
  obtain ⟨h1, h2, _, _⟩ := h.of_eq_append hu hv ho
  rcases List.suffix_or_suffix_of_suffix huw (List.suffix_append a w) with h | h
  · exact h1 h
  · exact h2 h

/-- A replacement goes on before and behind a text that it keeps apart from as if nothing stood
there. -/
theorem replace_around {old w : Text} (ho : old ≠ []) (h : Apart old w) (new a c : Text) :
    replace old new (a ++ w ++ c) =
      replace old new a ++ replace old new w ++ replace old new c := by
  have hl : ¬Straddles old a w := by simpa using h.not_straddles_left a []
  rw [replace_append ho (h.not_straddles_right a c), replace_append ho hl]

/-! ## Texts in which nothing starts -/

/-- No occurrence of `old` starts in `w`, whatever stands behind it. -/
def StartsNowhere (old w : Text) : Prop := ∀ v, v ≠ [] → v <:+ w → ∀ t, ¬old <+: v ++ t

/-- Whether an occurrence starts in a text depends on the ends of the text only. -/
theorem startsNowhere_iff {old w : Text} :
    StartsNowhere old w ↔ ∀ v ∈ w.tails, v ≠ [] → ¬old <+: v ∧ ¬v <+: old := by
  constructor
  · intro h v hv hne
    have hv' : v <:+ w := (List.mem_tails v w).1 hv
    refine ⟨fun hp => h v hne hv' [] (by rwa [List.append_nil]), ?_⟩
    rintro ⟨t, rfl⟩
    exact h v hne hv' t List.prefix_rfl
  · intro h v hne hv t hp
    obtain ⟨h₁, h₂⟩ := h v ((List.mem_tails v w).2 hv) hne
    rcases List.prefix_or_prefix_of_prefix hp (List.prefix_append v t) with hp | hp
    · exact h₁ hp
    · exact h₂ hp

instance (old w : Text) : Decidable (StartsNowhere old w) :=
  decidable_of_iff _ startsNowhere_iff.symm

theorem StartsNowhere.tail {old w : Text} {c : Char} (h : StartsNowhere old (c :: w)) :
    StartsNowhere old w := fun v hv hvw => h v hv (hvw.trans (List.suffix_cons c w))

theorem StartsNowhere.not_isPrefix {old w : Text} {c : Char} (h : StartsNowhere old (c :: w))
    (t : Text) : ¬old <+: c :: (w ++ t) := h (c :: w) (List.cons_ne_nil c w) List.suffix_rfl t

theorem startsNowhere_of_head {c : Char} {old w : Text} (h : c ∉ w) :
    StartsNowhere (c :: old) w := by
  intro v hv hvw t hp
  cases v with
  | nil => exact hv rfl
  | cons d v =>
    have hc : c = d := (List.cons_prefix_cons.1 hp).1
    exact h (hvw.subset (hc ▸ List.mem_cons_self))

/-- An occurrence cannot stay inside a text that lacks one of its characters, and it cannot leave it
over a character that it has not itself. -/
theorem startsNowhere_of_last {d e : Char} {old u : Text} (hd : d ∉ old) (he : e ∈ old)
    (hu : e ∉ u ++ [d]) : StartsNowhere old (u ++ [d]) := by
  intro v hv hvw t hp
  have hlast : d ∈ v := by
    rw [List.suffix_concat_iff] at hvw
    rcases hvw with rfl | ⟨v', rfl, _⟩
    · exact absurd rfl hv
    · simp
  rcases List.prefix_or_prefix_of_prefix hp (List.prefix_append v t) with h | h
  · exact hu (hvw.subset (h.subset he))
  · exact hd (h.subset hlast)

theorem replace_append_of_startsNowhere {old w : Text} (h : StartsNowhere old w) (new t : Text) :
    replace old new (w ++ t) = w ++ replace old new t := by
  induction w with
  | nil => rfl
  | cons c w ih =>
    rw [List.cons_append, replace_cons (h.not_isPrefix t), ih h.tail, List.cons_append]

end Text
end CommentDocs
