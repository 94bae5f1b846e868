import CommentDocs.Proofs.Comment.Closing

/-!
# CommentDocs.Proofs.Comment.Division

One comment or two. Lines that stand behind other lines are read as they are on their own, except
that what comes before their first tag continues the last remark before them and is no preamble
(`Remark.ofLines_append`). So a body may be divided in front of a tag line, or two bodies put
together there: a builder sees the same remarks but for a preamble, which says nothing to it
(`Builder.applyAll_divided`).
-/

namespace CommentDocs
namespace Remark

def extendLast (more : Text) : List Remark → List Remark
  | [] => []
  | [a] => [⟨a.tag, a.label, a.text ++ more⟩]
  | a :: b :: rest => a :: extendLast more (b :: rest)

/-- A reading of lines, continued by a reading of the lines behind them. -/
def continued : Text × List Remark → Text × List Remark → Text × List Remark
  | (text, []), (more, rest) => (text ++ more, rest)
  | (text, a :: as), (more, rest) => (text, extendLast more (a :: as) ++ rest)

/-- The last remark that some lines leave open is continued by the lines behind them. -/
theorem ofLines_append (xs ys : List Text) :
    ofLines (xs ++ ys) = continued (ofLines xs) (ofLines ys) := by
  induction xs with
  | nil => rfl
  | cons line xs ih =>
    simp only [List.cons_append, ofLines, ih]
    rcases ofLines xs with ⟨text, as⟩
    split
    · rfl
    · -- A tag line: the remark that it opens is the last one if no other is opened behind it.
      cases as with
      | nil => simp [continued, extendLast]
      | cons a as => rfl
    · cases as with
      | nil => simp [continued]
      | cons a as => rfl

theorem ofBody_append {p : Text} (hp : Text.WholeLines p) (q : Text) :
    ofBody (p ++ q) =
      extendLast (ofLines (Text.lines q)).1 (ofBody p) ++ (ofLines (Text.lines q)).2 := by
  rw [ofBody, Text.lines_append hp, ofLines_append, ofBody]
  rcases ofLines (Text.lines p) with ⟨text, _ | ⟨a, as⟩⟩
  · rfl
  · rfl

theorem extendLast_nil (as : List Remark) : extendLast [] as = as := by
  induction as with
  | nil => rfl
  | cons a as ih =>
    cases as with
    | nil => simp [extendLast]
    | cons b as => rw [extendLast, ih]

/-- The first line of a body that is not blank, if there is one, opens a remark. -/
def OpensWithTag (q : Text) : Prop :=
  ∀ line ∈ (Text.lines q).find? (Text.trim · ≠ []), (Text.trim line).head? = some '@'

theorem ofLines_fst_eq_nil {lines : List Text} :
    (ofLines lines).1 = [] ↔
      ∀ line ∈ lines.find? (Text.trim · ≠ []), (Text.trim line).head? = some '@' := by
  induction lines with
  | nil => simp [ofLines]
  | cons line lines ih =>
    simp only [ofLines]
    split
    · rename_i hblank
      simp [hblank, ih]
    · rename_i htag
      simp [htag]
    · rename_i hblank htag
      have hne : Text.trim line ≠ [] := hblank
      have hcons : (Text.trim line).head? ≠ some '@' := by
        intro hhead
        obtain ⟨t, ht⟩ := List.head?_eq_some_iff.1 hhead
        exact htag t ht
      simp [hne, hcons]

instance (q : Text) : Decidable (OpensWithTag q) :=
  decidable_of_iff ((ofLines (Text.lines q)).1 = []) ofLines_fst_eq_nil

end Remark

namespace Builder

open Remark

theorem apply_preamble (b : Builder) (text : Text) : b.apply (preamble text) = (b, []) := rfl

theorem applyAll_ofBody (b : Builder) (q : Text) :
    b.applyAll (ofBody q) = b.applyAll (ofLines (Text.lines q)).2 := by
  rw [ofBody, applyAll, apply_preamble]
  rfl

/-- Lines behind other lines are read as they are on their own, but for those before the first tag,
which continue the last remark. If there are none, it makes no difference to any builder whether the
lines stand in one body or in two, and none to reading a source text whether it has the one comment
or the two. -/
theorem applyAll_divided {p q : Text} (hp : p = [] ∨ p.getLast? = some '\n') :
    (∃ more rest, ofBody q = preamble more :: rest ∧
      ofBody (p ++ q) = extendLast more (ofBody p) ++ rest) ∧
    (OpensWithTag q → ∀ b : Builder,
      (b.applyAll (ofBody (p ++ q))).1 = ((b.applyAll (ofBody p)).1.applyAll (ofBody q)).1 ∧
      (b.applyAll (ofBody (p ++ q))).2 =
        (b.applyAll (ofBody p)).2 ++ ((b.applyAll (ofBody p)).1.applyAll (ofBody q)).2) ∧
    (OpensWithTag q → ∀ (x y : Text) (front back : List Text),
      Comment.bodies x = front ++ (p ++ q) :: back →
      Comment.bodies y = front ++ p :: q :: back → ∀ b : Builder, b.read x = b.read y) := by
  have hfold : OpensWithTag q → ∀ b : Builder,
      b.applyAll (ofBody (p ++ q)) = b.applyAll (ofBody p ++ ofBody q) := by
    intro hq b
    rw [ofBody_append hp, ofLines_fst_eq_nil.2 hq, extendLast_nil, applyAll_append, applyAll_append,
      applyAll_ofBody _ q]
  refine ⟨⟨_, _, rfl, ofBody_append hp q⟩, ?_, ?_⟩
  · intro hq b
    rw [hfold hq b, applyAll_append]
    exact ⟨rfl, rfl⟩
  · intro hq x y front back hx hy b
    have hremarks : ∀ body, ofSource body = (Comment.bodies body).flatMap ofBody := fun _ => rfl
    rw [read_eq, read_eq, hremarks, hremarks, hx, hy]
    simp only [List.flatMap_append, List.flatMap_cons, applyAll_append, hfold hq]
    simp only [List.append_assoc]

/-- A method in a second comment: the blank line and the indented tag open it, and the line behind
the tag belongs to it. -/
theorem applyAll_divided_method :
    let p : Text := "@class Layer drawn\nin order\n"
    let q : Text := "\n  @method draw\nonce\n"
    (p = [] ∨ p.getLast? = some '\n') ∧ OpensWithTag q ∧
      (empty.applyAll (ofBody (p ++ q))).1 =
        ((empty.applyAll (ofBody p)).1.applyAll (ofBody q)).1 := by
  intro p q
  have hp : p = [] ∨ p.getLast? = some '\n' := by decide
  have hq : OpensWithTag q := by decide
  exact ⟨hp, hq, ((applyAll_divided hp).2.1 hq empty).1⟩

end Builder
end CommentDocs
