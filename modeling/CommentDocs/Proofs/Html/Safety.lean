import CommentDocs.Proofs.Html.Layout
import CommentDocs.Proofs.Html.Markup

/-!
# CommentDocs.Proofs.Html.Safety

Whatever is documented, the default page is markup. Labels and descriptions are escaped, anchors
consist of harmless characters, and the passes over the text lead from markup to markup
(`visit_markup`). So every `<` in the page opens one of the known tags, and every `&` one of the
known references.
-/

namespace CommentDocs
namespace Html

/-! ## The tags of nodes and pages -/

theorem reads_everything : reads [] "<div class=\"everything\">\n" ∧ reads [] "\n</div>\n" := by
  decide

theorem reads_supertypes :
    reads [] "<div class=\"extends\"> extends " ∧ reads [] ", " ∧ reads [] " </div>" := by
  decide

theorem reads_entity :
    reads [] " <h1> " ∧ reads [] " </h1> " ∧ reads [] " <p> " ∧ reads [] " </p> <p> " ∧
      reads [] " </p> </article>" := by
  decide

theorem reads_constructor :
    reads [] ("<section> <h2> " ++ ("Constructor" : Text) ++ " </h2> ") := by
  decide

theorem reads_member :
    reads [] "<section> <h2> " ∧ reads [] " </h2> " ∧ reads [] " <div class=\"method_desc\"> " ∧
      reads [] " </div> </section>" := by
  decide

theorem reads_param :
    reads [] "<div class=\"param\"> <div class=\"param_type\"> &larr; " ∧
      reads [] " </div> <div class=\"param_desc\"> " := by
  decide

theorem reads_returns :
    reads [] "<div class=\"return\"> <div class=\"return_type\"> &rarr; " ∧
      reads [] " </div> <div class=\"return_desc\"> " := by
  decide

theorem reads_divisions : reads [] " </div> </div>" := by decide

theorem reads_index :
    reads [] "<ul class=\"index\">\n" ∧ reads [] "  <li>" ∧ reads [] "</a></li>\n" ∧
      reads [] "</ul>" := by
  decide

theorem reads_page : reads [] pageOpening ∧ reads [] pageMiddle ∧ reads [] pageClosing := by
  decide +kernel

/-! ## Nodes -/

theorem supertypes_markup (e : Entity) : Markup (supertypes e) := by
  unfold supertypes
  split
  · exact .nil
  · obtain ⟨h1, h2, h3⟩ := reads_supertypes
    have hnames : ∀ t ∈ e.supertypes.map escape, Markup t := by
      intro t ht
      obtain ⟨name, _, rfl⟩ := List.mem_map.1 ht
      exact markup_escape name
    exact ((Markup.of_reads h1).append (.intercalate (.of_reads h2) _ hnames)).append (.of_reads h3)

theorem divisions_markup {start middle : Text} (hstart : reads [] start) (hmiddle : reads [] middle)
    (p : Param) :
    Markup (start ++ escape p.label ++ middle ++ escape p.description ++ " </div> </div>") := by
  have hlabel :=
    ((Markup.of_reads hstart).append (markup_escape p.label)).append (.of_reads hmiddle)
  exact (hlabel.append (markup_escape p.description)).append (.of_reads reads_divisions)

theorem opening_markup (n : Node) : Markup (opening n) := by
  cases n with
  | everything ns => exact .of_reads reads_everything.1
  | entity e =>
    obtain ⟨h1, h2, h3, h4, _⟩ := reads_entity
    have hstart : Markup ("<article id=\"" ++ e.anchor ++ "\" class=\"" ++ e.kind.tag ++ "\">") :=
      .token (.tag (.article e.kind (isAnchor_anchor e)))
    have hlabel := ((Markup.of_reads h1).append (markup_escape e.label)).append (.of_reads h2)
    have hextends := (hlabel.append (supertypes_markup e)).append (.of_reads h3)
    rw [opening_entity]
    exact hstart.append ((hextends.append (markup_escape e.description)).append (.of_reads h4))
  | constructor m => exact .of_reads reads_constructor
  | method m =>
    obtain ⟨h1, h2, _, _⟩ := reads_member
    exact ((Markup.of_reads h1).append (markup_escape m.label)).append (.of_reads h2)
  | param p => exact divisions_markup reads_param.1 reads_param.2 p
  | returns p => exact divisions_markup reads_returns.1 reads_returns.2 p

theorem closing_markup (n : Node) : Markup (closing n) := by
  obtain ⟨_, _, h3, h4⟩ := reads_member
  have hmember : ∀ m : Method,
      Markup (" <div class=\"method_desc\"> " ++ escape m.description ++ " </div> </section>") :=
    fun m => ((Markup.of_reads h3).append (markup_escape m.description)).append (.of_reads h4)
  cases n with
  | everything ns => exact .of_reads reads_everything.2
  | entity e => exact .of_reads reads_entity.2.2.2.2
  | constructor m => exact hmember m
  | method m => exact hmember m
  | param p => exact .nil
  | returns p => exact .nil

theorem visit_markup (n : Node) : Markup (visit n) := by
  induction n using Node.tree_induction with
  | step n ih =>
    have hblank : reads [] " " := by decide
    have hchildren : ∀ t ∈ n.children.map visit, Markup t := by
      intro t ht
      obtain ⟨c, hc, rfl⟩ := List.mem_map.1 ht
      exact ih c hc
    have hcontained : Markup (contained substitute n) :=
      .intercalate (.of_reads hblank) _ hchildren
    rw [visit, visitWith_eq]
    exact (((opening_markup n).append hcontained).append (closing_markup n)).substitute

/-! ## Pages -/

theorem indexItem_markup (e : Entity) : Markup (indexItem e) := by
  obtain ⟨_, h1, h2, _⟩ := reads_index
  have hlink : Markup ("<a href=\"#" ++ e.anchor ++ "\">") :=
    .token (.tag (.link (isAnchor_anchor e)))
  rw [indexItem_eq]
  exact (Markup.of_reads h1).append ((hlink.append (markup_escape e.label)).append (.of_reads h2))

theorem index_markup (ns : Namespace) : Markup (index ns) := by
  unfold index
  split
  · exact .nil
  · obtain ⟨h1, _, _, h2⟩ := reads_index
    have hitems : Markup (ns.entities.flatMap indexItem) :=
      .flatMap _ fun e _ => indexItem_markup e
    exact ((Markup.of_reads h1).append hitems).append (.of_reads h2)

theorem fill_defaultPage_markup {contents index : Text} (hc : Markup contents) (hi : Markup index)
    (fragments : Fragments) : Markup (Template.fill defaultPage contents index fragments).1 := by
  obtain ⟨h1, h2, h3⟩ := reads_page
  rw [fill_defaultPage]
  exact (Markup.of_reads h1).append
    (hi.append ((Markup.of_reads h2).append (hc.append (.of_reads h3))))

/-- The default page is markup whatever is documented, so nothing that is documented brings in a tag
or a reference of its own. -/
theorem defaultPage_safe (ns : Namespace) (fragments : Fragments) :
    ∃ text : Text,
      ((PageSet.defaultFor .html).render .html ns fragments).1 = [(("index" : Text), text)] ∧
      Markup text ∧
      (∀ a c, text = a ++ '<' :: c → ∃ x, IsTag x ∧ x <+: '<' :: c) ∧
      ∀ a c, text = a ++ '&' :: c → ∃ x ∈ references, x <+: '&' :: c := by
  have hmarkup : Markup (substitute
      (Template.fill defaultPage (visit (.everything ns)) (index ns) fragments).1) :=
    (fill_defaultPage_markup (visit_markup _) (index_markup ns) fragments).substitute
  refine ⟨_, rfl, hmarkup, ?_, ?_⟩
  · intro a c ht
    exact Markup.tag_at (a := a) (ht ▸ hmarkup)
  · intro a c ht
    exact Markup.reference_at (a := a) (ht ▸ hmarkup)

end Html
end CommentDocs
