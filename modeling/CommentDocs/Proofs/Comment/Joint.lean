import CommentDocs.Proofs.Builder.Apply
import CommentDocs.Proofs.Comment.Cuts

/-!
# CommentDocs.Proofs.Comment.Joint

Source texts one behind the other. `Builder.read_append` says that reading two texts in turn is
reading the one text that they make together, focus and events included, provided that the last
comment of the first text is closed (`Comment.Closed`) and that no opening marker arises where the
two meet.

The second text then starts outside of comments, and the cut at opening markers falls apart at its
start: the front of the second text only adds to a piece that a closing marker has ended already, or
to the code before the first comment (`Comment.bodies_append`).
-/

namespace CommentDocs
namespace Comment

/-- The text behind the last opening marker, if there is one, holds a closing marker. -/
def Closed (t : Text) : Prop :=
  ∀ u v, t = u ++ "/**" ++ v → ¬("/**" : Text) <:+: v → ("*/" : Text) <:+: v

theorem getLast?_splitOpen {u v : Text} (hv : ¬("/**" : Text) <:+: v) :
    (splitOpen (u ++ "/**" ++ v)).2.getLast? = some v := by
  have hcut : u ++ "/**" ++ v = u ++ '/' :: '*' :: '*' :: v := by simp
  rw [hcut, splitOpen_append_marker, splitOpen_of_free hv, List.getLast?_concat]

theorem closed_iff {t : Text} :
    Closed t ↔ ∀ v ∈ (splitOpen t).2.getLast?, ("*/" : Text) <:+: v := by
  constructor
  · intro h v hv
    by_cases ht : ("/**" : Text) <:+: t
    · obtain ⟨u, w, hcut, hw⟩ := exists_last_marker ht
      have hcut' : t = u ++ "/**" ++ w := by simp [hcut]
      rw [hcut', getLast?_splitOpen hw] at hv
      cases hv
      exact h u v hcut' hw
    · rw [splitOpen_of_free ht] at hv
      cases hv
  · rintro h u v rfl hv
    exact h v (getLast?_splitOpen hv)

instance (t : Text) : Decidable (Closed t) := decidable_of_iff' _ closed_iff

/-- The ways in which an opening marker can reach over the place between two texts. -/
theorem straddles_opening {x y : Text} :
    Text.Straddles "/**" x y ↔
      (("/" : Text) <:+ x ∧ ("**" : Text) <+: y) ∨ (("/*" : Text) <:+ x ∧ ("*" : Text) <+: y) := by
  constructor
  · rintro ⟨u, v, hu, hv, hold, hux, hvy⟩
    have hold' : ['/', '*', '*'] = u ++ v := hold
    -- The marker has three characters, so there are two places to cut it.
    rcases u with _ | ⟨a, _ | ⟨b, _ | ⟨c, u⟩⟩⟩
    · exact absurd rfl hu
    · cases hold'
      exact .inl ⟨hux, hvy⟩
    · cases hold'
      exact .inr ⟨hux, hvy⟩
    · simp only [List.cons_append, List.cons.injEq, List.nil_eq, List.append_eq_nil_iff] at hold'
      exact absurd hold'.2.2.2.2 hv
  · rintro (⟨hx, hy⟩ | ⟨hx, hy⟩)
    · exact ⟨"/", "**", by decide, by decide, by decide, hx, hy⟩
    · exact ⟨"/*", "*", by decide, by decide, by decide, hx, hy⟩

theorem bodies_append_marker (u t : Text) :
    bodies (u ++ '/' :: '*' :: '*' :: t) = bodies u ++ body (splitOpen t).1 :: bodies t := by
  simp only [bodies, splitOpen_append_marker, List.map_append, List.map_cons]

theorem bodies_of_free {t : Text} (h : ¬("/**" : Text) <:+: t) : bodies t = [] := by
  rw [bodies, splitOpen_of_free h, List.map_nil]

theorem body_append_of_closed {v : Text} (h : ("*/" : Text) <:+: v) (t : Text) :
    body (v ++ t) = body v := by
  rw [body, untilClose_append_of_closed h, body]

theorem bodies_append {x y : Text} (hc : Closed x) (hs : ¬Text.Straddles "/**" x y) :
    bodies (x ++ y) = bodies x ++ bodies y := by
  by_cases hx : ("/**" : Text) <:+: x
  · obtain ⟨u, v, rfl, hv⟩ := exists_last_marker hx
    have hsv : ¬Text.Straddles "/**" v y :=
      fun hsv => hs (hsv.of_suffix ⟨u ++ ['/', '*', '*'], by simp⟩)
    have hclose : ("*/" : Text) <:+: v := hc u v (by simp) hv
    have hy : bodies (v ++ y) = bodies y := by
      rw [bodies, splitOpen_append_free hv hsv, bodies]
    rw [List.append_assoc, List.cons_append, List.cons_append, List.cons_append,
      bodies_append_marker, bodies_append_marker, hy, bodies_of_free hv,
      splitOpen_append_free hv hsv, splitOpen_of_free hv, body_append_of_closed hclose]
    simp
  · rw [bodies_of_free hx, List.nil_append, bodies, splitOpen_append_free hx hs, bodies]

end Comment

/-- The remarks of all comments of a source text. -/
def Remark.ofSource (source : Text) : List Remark := (Comment.bodies source).flatMap ofBody

theorem Remark.ofSource_append {x y : Text} (hc : Comment.Closed x)
    (hs : ¬Text.Straddles "/**" x y) : ofSource (x ++ y) = ofSource x ++ ofSource y := by
  rw [ofSource, Comment.bodies_append hc hs, List.flatMap_append, ofSource, ofSource]

namespace Builder

theorem read_eq (b : Builder) (source : Text) :
    b.read source = b.applyAll (Remark.ofSource source) := rfl

/-- Two texts are read as the one text that they make together, from any builder, unless the first
ends inside a comment or a marker arises between the two. -/
theorem read_append (b : Builder) {x y : Text} (hc : Comment.Closed x)
    (hslash : ¬(("/" : Text) <:+ x ∧ ("**" : Text) <+: y))
    (hstar : ¬(("/*" : Text) <:+ x ∧ ("*" : Text) <+: y)) :
    ((b.read x).1.read y).1 = (b.read (x ++ y)).1 ∧
      (b.read x).2 ++ ((b.read x).1.read y).2 = (b.read (x ++ y)).2 := by
  have hs : ¬Text.Straddles "/**" x y := by
    rw [Comment.straddles_opening, not_or]
    exact ⟨hslash, hstar⟩
  simp only [read_eq, Remark.ofSource_append hc hs, applyAll_append, and_self]

/-- A class in the first text and its method in the second, with halves of markers around the place
where they meet. -/
theorem read_append_halves :
    let x : Text := "/** * @class Layer */ /*"
    let y : Text := "/** * @method draw */"
    Comment.Closed x ∧ ((empty.read x).1.read y).1 = (empty.read (x ++ y)).1 ∧
      (empty.read (x ++ y)).1.memberFocus = some (.method "draw") := by
  intro x y
  have hc : Comment.Closed x := by decide
  exact ⟨hc, (read_append empty hc (by decide) (by decide)).1, by decide +kernel⟩

end Builder
end CommentDocs
