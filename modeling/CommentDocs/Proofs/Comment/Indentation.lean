import CommentDocs.Builder
import CommentDocs.Proofs.Comment.Labels
import Mathlib.Data.List.Forall2

/-!
# CommentDocs.Proofs.Comment.Indentation

How a source text is laid out does not matter to its comments. `Relaid x y` says that `y` is `x`
with a carriage return put in front of some of its newlines, and with other spaces and tabs behind
them.

* Neither kind of edit makes or breaks a marker, so two such texts are cut at the same markers, and
  the pieces are laid out anew in the same way (`Relaid.splitOpen`, `Relaid.untilClose`).
* The interior lines of the pieces are the same (`Relaid.interiors_eq`).

Together: comments have the same bodies and are read with the same outcome (`bodies_relaid`).
-/

namespace CommentDocs

theorem Text.chomp_concat (u : Text) : chomp (u ++ ['\r']) = u := by
  induction u with
  | nil => rfl
  | cons c u ih =>
    rw [List.cons_append, chomp_cons fun _ => by simp, ih]

namespace Comment

/-! ## Texts that differ in their layout -/

/-- Spaces and tabs. -/
def IsIndent (i : Text) : Prop := ∀ c ∈ i, c = ' ' ∨ c = '\t'

instance (i : Text) : Decidable (IsIndent i) :=
  List.decidableBAll (fun c => c = ' ' ∨ c = '\t') i

/-- A newline, or a carriage return and a newline. -/
def IsLineEnd (e : Text) : Prop := e = ['\n'] ∨ e = ['\r', '\n']

instance (e : Text) : Decidable (IsLineEnd e) :=
  inferInstanceAs (Decidable (e = ['\n'] ∨ e = ['\r', '\n']))

/-- The second text is the first with other line ends and with other spaces and tabs directly behind
them. -/
inductive Relaid : Text → Text → Prop
  | nil : Relaid [] []
  | char {c : Char} {s t : Text} : c ≠ '\n' → Relaid s t → Relaid (c :: s) (c :: t)
  | newline {e i j s t : Text} : IsLineEnd e → IsIndent i → IsIndent j → Relaid s t →
      Relaid ('\n' :: (i ++ s)) (e ++ (j ++ t))

theorem IsIndent.not_mem {i : Text} (h : IsIndent i) {c : Char} (hc : c ≠ ' ' ∧ c ≠ '\t') :
    c ∉ i := by
  intro hm
  rcases h c hm with rfl | rfl
  · exact hc.1 rfl
  · exact hc.2 rfl

theorem isIndent_nil : IsIndent [] := fun _ hc => nomatch hc

theorem IsIndent.line {i w : Text} (h : IsIndent i) (hw : '\n' ∉ w ∧ '\r' ∉ w) :
    '\n' ∉ i ++ w ∧ '\r' ∉ i ++ w := by
  simp [h.not_mem, hw]

theorem IsIndent.isBlank {i : Text} (h : IsIndent i) : ∀ c ∈ i, Text.isBlank c = true := by
  intro c hm
  rcases h c hm with rfl | rfl <;> decide

theorem IsLineEnd.not_mem {e : Text} (h : IsLineEnd e) {c : Char} (hc : c ≠ '\r' ∧ c ≠ '\n') :
    c ∉ e := by
  rcases h with rfl | rfl
  · simp [hc.2]
  · simp [hc.1, hc.2]

namespace Relaid

theorem append {u s t : Text} (hu : '\n' ∉ u) (h : Relaid s t) : Relaid (u ++ s) (u ++ t) := by
  induction u with
  | nil => exact h
  | cons c u ih =>
    rw [List.mem_cons, not_or] at hu
    exact char (Ne.symm hu.1) (ih hu.2)

theorem of_cons {c : Char} {s y : Text} (hc : c ≠ '\n') (h : Relaid (c :: s) y) :
    ∃ t, y = c :: t ∧ Relaid s t := by
  generalize hx : c :: s = x at h
  cases h with
  | nil => cases hx
  | char _ h => cases hx; exact ⟨_, rfl, h⟩
  | newline => exact absurd (List.cons.inj hx).1 hc

theorem of_append {p s y : Text} (hp : '\n' ∉ p) (h : Relaid (p ++ s) y) :
    ∃ t, y = p ++ t ∧ Relaid s t := by
  induction p generalizing y with
  | nil => exact ⟨y, rfl, h⟩
  | cons c p ih =>
    rw [List.mem_cons, not_or] at hp
    obtain ⟨u, rfl, hu⟩ := of_cons (Ne.symm hp.1) h
    obtain ⟨t, rfl, ht⟩ := ih hp.2 hu
    exact ⟨t, rfl, ht⟩

theorem of_append_append {p s t : Text} (hp : '\n' ∉ p) (h : Relaid (p ++ s) (p ++ t)) :
    Relaid s t := by
  obtain ⟨u, hu, hs⟩ := of_append hp h
  rwa [List.append_cancel_left hu]

/-- A text of ordinary characters stands at the front of both texts or of none. -/
theorem prefix_iff {p x y : Text} (hp : '\n' ∉ p) (hr : '\r' ∉ p) (h : Relaid x y) :
    p <+: x ↔ p <+: y := by
  induction h generalizing p with
  | nil => rfl
  | @char c s t _ _ ih =>
    cases p with
    | nil => simp
    | cons d p =>
      rw [List.cons_prefix_cons, List.cons_prefix_cons,
        ih (fun hm => hp (.tail d hm)) (fun hm => hr (.tail d hm))]
  | @newline e i j s t he _ _ _ _ =>
    cases p with
    | nil => simp
    | cons d p =>
      have hn : d ≠ '\n' := fun hd => hp (hd ▸ .head p)
      have hc : d ≠ '\r' := fun hd => hr (hd ▸ .head p)
      rcases he with rfl | rfl
      · simp [List.cons_prefix_cons, hn]
      · simp [List.cons_prefix_cons, hn, hc]

end Relaid

/-! ## Markers -/

theorem splitOpen_append_of_startsNowhere {w : Text} (h : Text.StartsNowhere "/**" w) (t : Text) :
    splitOpen (w ++ t) = (w ++ (splitOpen t).1, (splitOpen t).2) := by
  induction w with
  | nil => rfl
  | cons c w ih =>
    rw [List.cons_append, splitOpen_cons (h.not_isPrefix t), ih h.tail, List.cons_append]

theorem splitOpen_stars (t : Text) :
    splitOpen ('*' :: '*' :: t) = ('*' :: '*' :: (splitOpen t).1, (splitOpen t).2) :=
  splitOpen_append_of_startsNowhere (w := ['*', '*']) (by decide) t

theorem untilClose_append_of_startsNowhere {w : Text} (h : Text.StartsNowhere "*/" w) (t : Text) :
    untilClose (w ++ t) = w ++ untilClose t := by
  induction w with
  | nil => rfl
  | cons c w ih =>
    rw [List.cons_append, untilClose_cons (h.not_isPrefix t), ih h.tail, List.cons_append]

theorem startsNowhere_layout {c : Char} {m e i : Text} (he : IsLineEnd e) (hi : IsIndent i)
    (hend : c ≠ '\r' ∧ c ≠ '\n') (hindent : c ≠ ' ' ∧ c ≠ '\t') :
    Text.StartsNowhere (c :: m) (e ++ i) := by
  refine Text.startsNowhere_of_head fun hm => ?_
  rcases List.mem_append.1 hm with hm | hm
  · exact he.not_mem hend hm
  · exact hi.not_mem hindent hm

theorem splitOpen_layout {e i : Text} (he : IsLineEnd e) (hi : IsIndent i) (t : Text) :
    splitOpen (e ++ (i ++ t)) = (e ++ (i ++ (splitOpen t).1), (splitOpen t).2) := by
  have hskip : Text.StartsNowhere "/**" (e ++ i) :=
    startsNowhere_layout he hi (by decide) (by decide)
  simpa using splitOpen_append_of_startsNowhere hskip t

theorem untilClose_layout {e i : Text} (he : IsLineEnd e) (hi : IsIndent i) (t : Text) :
    untilClose (e ++ (i ++ t)) = e ++ (i ++ untilClose t) := by
  have hskip : Text.StartsNowhere "*/" (e ++ i) :=
    startsNowhere_layout he hi (by decide) (by decide)
  simpa using untilClose_append_of_startsNowhere hskip t

namespace Relaid

theorem opens_iff {x y : Text} (h : Relaid x y) : Opens x ↔ Opens y :=
  h.prefix_iff (by decide) (by decide)

theorem closes_iff {x y : Text} (h : Relaid x y) : ("*/" : Text) <+: x ↔ ("*/" : Text) <+: y :=
  h.prefix_iff (by decide) (by decide)

/-- Both texts have the same opening markers, and between them one is the other laid out anew. -/
theorem splitOpen {x y : Text} (h : Relaid x y) :
    Relaid (splitOpen x).1 (splitOpen y).1 ∧
      List.Forall₂ Relaid (splitOpen x).2 (splitOpen y).2 := by
  induction h with
  | nil => exact ⟨nil, .nil⟩
  | @char c s t hc hst ih =>
    by_cases ho : Opens (c :: s)
    · -- The pieces behind the marker are those of the tail, less the two stars that start them.
      obtain ⟨s', hs⟩ := ho.exists_eq
      obtain ⟨t', ht⟩ := ((char hc hst).opens_iff.1 ho).exists_eq
      obtain ⟨rfl, rfl⟩ := List.cons.inj hs
      obtain ⟨-, rfl⟩ := List.cons.inj ht
      rw [splitOpen_stars, splitOpen_stars] at ih
      rw [splitOpen_opens, splitOpen_opens]
      exact ⟨nil, .cons (of_append_append (p := ['*', '*']) (by decide) ih.1) ih.2⟩
    · have ho' : ¬Opens (c :: t) := fun ho' => ho ((char hc hst).opens_iff.2 ho')
      rw [splitOpen_cons ho, splitOpen_cons ho']
      exact ⟨char hc ih.1, ih.2⟩
  | @newline e i j s t he hi hj _ ih =>
    have hfirst := newline he hi hj ih.1
    have hnewline : IsLineEnd ['\n'] := .inl rfl
    rw [← List.singleton_append, splitOpen_layout hnewline hi, splitOpen_layout he hj]
    exact ⟨hfirst, ih.2⟩

theorem untilClose {x y : Text} (h : Relaid x y) : Relaid (untilClose x) (untilClose y) := by
  induction h with
  | nil => exact nil
  | @char c s t hc hst ih =>
    by_cases hclose : ("*/" : Text) <+: c :: s
    · obtain ⟨s', hs⟩ := exists_eq_of_close hclose
      obtain ⟨t', ht⟩ := exists_eq_of_close ((char hc hst).closes_iff.1 hclose)
      rw [hs, ht, untilClose_closes, untilClose_closes]
      exact nil
    · have hclose' : ¬("*/" : Text) <+: c :: t := fun h' => hclose ((char hc hst).closes_iff.2 h')
      rw [untilClose_cons hclose, untilClose_cons hclose']
      exact char hc ih
  | @newline e i j s t he hi hj _ ih =>
    have hrest := newline he hi hj ih
    have hnewline : IsLineEnd ['\n'] := .inl rfl
    rw [← List.singleton_append, untilClose_layout hnewline hi, untilClose_layout he hj]
    exact hrest

end Relaid

/-! ## Interior lines -/

/-- What the interior lines of a text hold. -/
def interiors (t : Text) : List Text := (Text.lines t).filterMap interior

theorem body_eq (chunk : Text) : body chunk = Text.unlines (interiors (untilClose chunk)) := rfl

theorem interior_indent {i : Text} (h : IsIndent i) (u : Text) :
    interior (i ++ u) = interior u := by
  have htrim : Text.trimStart (i ++ u) = Text.trimStart u := List.dropWhile_append_of_pos h.isBlank
  rw [interior, htrim, interior]

theorem interiors_of_not_mem {u : Text} (h : '\n' ∉ u) : interiors u = (interior u).toList := by
  rw [interiors, Text.lines_of_not_mem h]
  split
  · rename_i hu
    rw [hu]
    rfl
  · cases hu : interior u <;> simp [hu]

theorem interiors_cut {u e : Text} (hw : '\n' ∉ u ∧ '\r' ∉ u) (he : IsLineEnd e) (v : Text) :
    interiors (u ++ (e ++ v)) = (interior u).toList ++ interiors v := by
  have hline : Text.IsLine u := ⟨hw.1, fun h => hw.2 (List.mem_of_getLast? h)⟩
  have hcut : Text.lines (u ++ (e ++ v)) = u :: Text.lines v := by
    rcases he with rfl | rfl
    · exact Text.lines_append_newline hline v
    · have hu : '\n' ∉ u ++ ['\r'] := by simp [hw.1]
      have happend : u ++ (['\r', '\n'] ++ v) = (u ++ ['\r']) ++ '\n' :: v := by simp
      rw [happend, Text.lines_cut hu, Text.chomp_concat]
  rw [interiors, hcut, interiors]
  cases hu : interior u <;> simp [hu]

namespace Relaid

/-- Lines that differ in their line ends and in their indentation say the same. The induction goes
through the texts from inside a line, of which `w` is read already behind either indentation. -/
theorem interiors_append {s t i j w : Text} (h : Relaid s t) (hs : '\r' ∉ s) (hi : IsIndent i)
    (hj : IsIndent j) (hw : '\n' ∉ w ∧ '\r' ∉ w) :
    interiors (i ++ (w ++ s)) = interiors (j ++ (w ++ t)) := by
  induction h generalizing i j w with
  | nil =>
    rw [List.append_nil, interiors_of_not_mem (hi.line hw).1, interiors_of_not_mem (hj.line hw).1,
      interior_indent hi, interior_indent hj]
  | @char c s t hc _ ih =>
    rw [List.mem_cons, not_or] at hs
    have hw' : '\n' ∉ w ++ [c] ∧ '\r' ∉ w ++ [c] := by simp [hw, hc.symm, hs.1]
    simpa using ih hs.2 hi hj hw'
  | @newline e i' j' s t he hi' hj' _ ih =>
    have hs' : '\r' ∉ s := fun hm => hs (.tail _ (List.mem_append_right i' hm))
    have hrest := ih hs' hi' hj' (w := []) ⟨by simp, by simp⟩
    rw [← List.append_assoc, ← List.append_assoc j, ← List.singleton_append,
      interiors_cut (hi.line hw) (.inl rfl), interiors_cut (hj.line hw) he, interior_indent hi,
      interior_indent hj]
    exact congrArg _ hrest

theorem interiors_eq {x y : Text} (h : Relaid x y) (hx : '\r' ∉ x) : interiors x = interiors y :=
  h.interiors_append (w := []) hx isIndent_nil isIndent_nil ⟨by simp, by simp⟩

end Relaid

theorem isInfix_of_mem_splitOpen {x piece : Text} (h : piece ∈ (splitOpen x).2) :
    piece <:+: x := by
  have hne : ("/**" : Text) ≠ [] := by decide
  induction x using Text.occurrence_induction hne with
  | nil => cases h
  | hit t ih =>
    refine List.IsInfix.trans ?_ (List.suffix_append ("/**" : Text) t).isInfix
    have hcut : (splitOpen (("/**" : Text) ++ t)).2 = (splitOpen t).1 :: (splitOpen t).2 := by
      rw [← List.nil_append (("/**" : Text) ++ t)]
      exact congrArg Prod.snd (splitOpen_opens t)
    rw [hcut] at h
    rcases List.mem_cons.1 h with rfl | h
    · exact (isPrefix_splitOpen t).isInfix
    · exact ih h
  | char c t hc ih =>
    rw [splitOpen_cons hc] at h
    exact (ih h).trans (List.suffix_cons c t).isInfix

theorem Relaid.body_eq {s t : Text} (h : Relaid s t) (hs : '\r' ∉ s) : body s = body t := by
  have hr : '\r' ∉ Comment.untilClose s := fun hm => hs ((isPrefix_untilClose s).subset hm)
  rw [Comment.body_eq, h.untilClose.interiors_eq hr, Comment.body_eq]

/-- Comments have the same bodies whatever the line ends and the indentation of their source, and so
they are read with the same outcome by any builder. -/
theorem bodies_relaid {x y : Text} (hx : '\r' ∉ x) (h : Relaid x y) :
    bodies y = bodies x ∧ ∀ b : Builder, b.read y = b.read x := by
  have hpieces : List.Forall₂ (fun s t => body s = body t) (splitOpen x).2 (splitOpen y).2 := by
    have hfree : ∀ piece ∈ (splitOpen x).2, '\r' ∉ piece := fun piece hp hm =>
      hx ((isInfix_of_mem_splitOpen hp).subset hm)
    have hboth := (List.forall₂_and_left _ _).2 ⟨hfree, h.splitOpen.2⟩
    exact hboth.imp fun s t ⟨hs, hst⟩ => hst.body_eq hs
  have hbodies : bodies x = bodies y := by
    rw [← List.forall₂_eq_eq_eq, bodies, bodies, List.forall₂_map_left_iff,
      List.forall₂_map_right_iff]
    exact hpieces
  refine ⟨hbodies.symm, fun b => ?_⟩
  rw [Builder.read, ← hbodies, Builder.read]

/-- A comment laid out anew behind its opening marker, between a star and a slash that stand on two
lines, on a blank line and in front of its closing marker. -/
theorem bodies_relaid_torn :
    let x : Text := "/**\n* @class Layer\n *\n/ x\n\n\t* text\n*/"
    let y : Text := "/**\r\n  * @class Layer\n*\r\n\t/ x\n \r\n* text\r\n */"
    '\r' ∉ x ∧ Relaid x y ∧ bodies y = bodies x ∧ bodies y = [("@class Layer\n\ntext\n" : Text)] ∧
      Builder.empty.read y = Builder.empty.read x := by
  intro x y
  have hx : '\r' ∉ x := by decide
  have hxy : Relaid x y :=
    .append (u := "/**") (by decide) <|
    .newline (e := "\r\n") (i := "") (j := "  ") (by decide) (by decide) (by decide) <|
    .append (u := "* @class Layer") (by decide) <|
    .newline (e := "\n") (i := " ") (j := "") (by decide) (by decide) (by decide) <|
    .append (u := "*") (by decide) <|
    .newline (e := "\r\n") (i := "") (j := "\t") (by decide) (by decide) (by decide) <|
    .append (u := "/ x") (by decide) <|
    .newline (e := "\n") (i := "") (j := " ") (by decide) (by decide) (by decide) <|
    .newline (e := "\r\n") (i := "\t") (j := "") (by decide) (by decide) (by decide) <|
    .append (u := "* text") (by decide) <|
    .newline (e := "\r\n") (i := "") (j := " ") (by decide) (by decide) (by decide) <|
    .append (u := "*/") (by decide) .nil
  obtain ⟨hbodies, hread⟩ := bodies_relaid hx hxy
  exact ⟨hx, hxy, hbodies, by decide, hread Builder.empty⟩

end Comment
end CommentDocs
