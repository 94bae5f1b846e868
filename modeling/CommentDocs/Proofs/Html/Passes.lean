import CommentDocs.Proofs.Html.Layout
import CommentDocs.Proofs.Html.Substitution

/-!
# CommentDocs.Proofs.Html.Passes

All passes together do what the last one does alone. A pass over a part of a text changes nothing
that a pass over the whole text would not change in the same way, so the passes at the nodes below a
node may be left out (`visit_body_interchangeable`), and so may all those that are made before a
page is filled in (`fill_interchangeable`).
-/

namespace CommentDocs

namespace Html

theorem substitute_interchangeable (t : Text) : Interchangeable symbols (substitute t) t :=
  interchangeable_substituteBy compatible_symbols t

theorem substitute_substitute (t : Text) : substitute (substitute t) = substitute t :=
  (substitute_interchangeable t).eq

/-! ## Nodes -/

theorem visit_eq (n : Node) :
    visit n = substitute (opening n ++ contained substitute n ++ closing n) :=
  visitWith_eq substitute n

theorem raw_eq (n : Node) : raw n = opening n ++ contained id n ++ closing n :=
  visitWith_eq id n

/-- What is passed over at a node, its children with their shorthands replaced already, against the
text that nothing has passed over. -/
theorem visit_body_interchangeable (n : Node) :
    Interchangeable symbols (opening n ++ contained substitute n ++ closing n) (raw n) := by
  induction n using Node.tree_induction with
  | step n ih =>
    have hchildren : ∀ c ∈ n.children, Interchangeable symbols (visit c) (raw c) := by
      intro c hc
      rw [visit_eq]
      exact (substitute_interchangeable _).trans (ih c hc)
    have hcontained : Interchangeable symbols (contained substitute n) (contained id n) :=
      Interchangeable.intercalate _ _ hchildren
    rw [raw_eq]
    exact ((Interchangeable.refl _).append hcontained).append (Interchangeable.refl _)

theorem visit_interchangeable (n : Node) : Interchangeable symbols (visit n) (raw n) := by
  rw [visit_eq]
  exact (substitute_interchangeable _).trans (visit_body_interchangeable n)

/-! ## Pages -/

theorem fill_interchangeable {x y : Text} (h : Interchangeable symbols x y)
    (template index : Text) (fragments : Fragments) :
    Interchangeable symbols (Template.fill template x index fragments).1
      (Template.fill template y index fragments).1 := by
  rw [Template.fill_text, Template.fill_text]
  refine Interchangeable.flatMap _ fun piece _ => ?_
  cases piece with
  | char c => exact Interchangeable.refl _
  | hit p =>
    -- Only the placeholder of the contents can tell the two apart.
    by_cases hp : p.name = "contents"
    · simp only [Template.expandPiece, Template.expand, if_pos hp]
      exact h
    · simp only [Template.expandPiece, Template.expand, if_neg hp]
      exact Interchangeable.refl _

theorem render_html_text (ps : PageSet) (ns : Namespace) (fragments : Fragments) :
    (ps.render .html ns fragments).1 = ps.pages.map fun p =>
      (p.name, substitute
        (Template.fill p.template (visit (.everything ns)) (index ns) fragments).1) := by
  simp only [PageSet.render, List.map_map]
  rfl

/-- A pass over a part of a text may be left out before a pass over the whole; the text of a node,
and every page, is one pass over the text that was made without any. -/
theorem substitute_passes :
    (∀ a b c, substitute (a ++ substitute b ++ c) = substitute (a ++ b ++ c)) ∧
    (∀ n, visit n = substitute (raw n)) ∧
    ∀ (ps : PageSet) (ns : Namespace) (fragments : Fragments),
      (ps.render .html ns fragments).1 = ps.pages.map fun p =>
        (p.name, substitute
          (Template.fill p.template (raw (.everything ns)) (index ns) fragments).1) := by
  refine ⟨fun a b c => substitute_interchangeable b a c, ?_, ?_⟩
  · intro n
    rw [visit_eq]
    exact (visit_body_interchangeable n).eq
  · intro ps ns fragments
    rw [render_html_text]
    refine List.map_congr_left fun p _ => ?_
    have h := fill_interchangeable (visit_interchangeable (.everything ns)) p.template (index ns)
      fragments
    exact congrArg (Prod.mk p.name) h.eq

end Html
end CommentDocs
