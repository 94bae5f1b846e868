import CommentDocs.Page.PageSet
import CommentDocs.Proofs.Page.Filling

/-!
# CommentDocs.Proofs.Html.Layout

The shape of HTML documentation. The text of a node is its own `opening`, the texts of its children
with blanks between them, and its own `closing` (`visitWith_eq`), so what is said of all nodes can
be shown by induction from the children to the node (`Node.tree_induction`). The default page puts
index and contents between three fixed texts (`fill_defaultPage`).
-/

namespace CommentDocs

/-- What passes from the children of a node to the node holds of all nodes. -/
theorem Node.tree_induction {P : Node → Prop} (step : ∀ n, (∀ c ∈ n.children, P c) → P n)
    (n : Node) : P n := by
  have param : ∀ p, P (.param p) := fun p => step _ (fun c hc => by cases hc)
  have returns : ∀ p, P (.returns p) := fun p => step _ (fun c hc => by cases hc)
  have parts : ∀ (m : Method), ∀ c ∈ m.params.map Node.param ++ m.returns.toList.map Node.returns,
      P c := by
    intro m c hc
    rcases List.mem_append.1 hc with hc | hc
    · obtain ⟨p, _, rfl⟩ := List.mem_map.1 hc
      exact param p
    · obtain ⟨p, _, rfl⟩ := List.mem_map.1 hc
      exact returns p
  have entity : ∀ e, P (.entity e) := by
    intro e
    refine step _ fun c hc => ?_
    rcases List.mem_append.1 hc with hc | hc
    · obtain ⟨m, _, rfl⟩ := List.mem_map.1 hc
      exact step _ (parts m)
    · obtain ⟨m, _, rfl⟩ := List.mem_map.1 hc
      exact step _ (parts m)
  cases n with
  | everything ns =>
    refine step _ fun c hc => ?_
    obtain ⟨e, _, rfl⟩ := List.mem_map.1 hc
    exact entity e
  | entity e => exact entity e
  | constructor m => exact step _ (parts m)
  | method m => exact step _ (parts m)
  | param p => exact param p
  | returns p => exact returns p

namespace Html

def opening : Node → Text
  | .everything _ => "<div class=\"everything\">\n"
  | .entity e =>
    "<article id=\"" ++ e.anchor ++ "\" class=\"" ++ e.kind.tag ++ "\"> <h1> " ++ escape e.label
      ++ " </h1> " ++ supertypes e ++ " <p> " ++ escape e.description ++ " </p> <p> "
  | .constructor _ => "<section> <h2> " ++ ("Constructor" : Text) ++ " </h2> "
  | .method m => "<section> <h2> " ++ escape m.label ++ " </h2> "
  | .param p =>
    "<div class=\"param\"> <div class=\"param_type\"> &larr; " ++ escape p.label
      ++ " </div> <div class=\"param_desc\"> " ++ escape p.description ++ " </div> </div>"
  | .returns p =>
    "<div class=\"return\"> <div class=\"return_type\"> &rarr; " ++ escape p.label
      ++ " </div> <div class=\"return_desc\"> " ++ escape p.description ++ " </div> </div>"

def closing : Node → Text
  | .everything _ => "\n</div>\n"
  | .entity _ => " </p> </article>"
  | .constructor m | .method m =>
    " <div class=\"method_desc\"> " ++ escape m.description ++ " </div> </section>"
  | .param _ | .returns _ => []

def contained (pass : Text → Text) (n : Node) : Text :=
  List.intercalate " " (n.children.map (visitWith pass))

section
variable (pass : Text → Text)

theorem contained_everything (ns : Namespace) :
    contained pass (.everything ns) = List.intercalate " " (ns.entities.map (entity pass)) := by
  unfold contained Node.children
  rw [List.map_map]
  rfl

theorem contained_entity (e : Entity) :
    contained pass (.entity e) = List.intercalate " "
      (e.constructor.toList.map (constructor pass) ++ e.methodList.map (method pass)) := by
  unfold contained Node.children
  rw [List.map_append, List.map_map, List.map_map]
  rfl

theorem contained_constructor (m : Method) :
    contained pass (.constructor m) = signature pass m := by
  unfold contained Node.children
  rw [List.map_append, List.map_map, List.map_map]
  rfl

theorem contained_method (m : Method) : contained pass (.method m) = signature pass m :=
  contained_constructor pass m

theorem member_eq (heading : Text) (m : Method) :
    member pass heading m = pass ("<section> <h2> " ++ heading ++ " </h2> " ++ signature pass m
      ++ (" <div class=\"method_desc\"> " ++ escape m.description ++ " </div> </section>")) := by
  unfold member
  simp only [List.append_assoc]

/-- The children of a node stand between its opening and its closing. -/
theorem visitWith_eq (n : Node) :
    visitWith pass n = pass (opening n ++ contained pass n ++ closing n) := by
  cases n with
  | everything ns =>
    rw [contained_everything]
    rfl
  | entity e =>
    rw [contained_entity]
    rfl
  | constructor m =>
    rw [contained_constructor]
    exact member_eq pass "Constructor" m
  | method m =>
    rw [contained_method]
    exact member_eq pass (escape m.label) m
  | param p =>
    have h : contained pass (.param p) = [] := rfl
    have h' : closing (.param p) = [] := rfl
    rw [h, h', List.append_nil, List.append_nil]
    rfl
  | returns p =>
    have h : contained pass (.returns p) = [] := rfl
    have h' : closing (.returns p) = [] := rfl
    rw [h, h', List.append_nil, List.append_nil]
    rfl

end

/-- The opening of an entity begins with a tag that holds its anchor. -/
theorem opening_entity (e : Entity) :
    opening (.entity e) =
      ("<article id=\"" ++ e.anchor ++ "\" class=\"" ++ e.kind.tag ++ "\">") ++ (" <h1> "
        ++ escape e.label ++ " </h1> " ++ supertypes e ++ " <p> " ++ escape e.description
        ++ " </p> <p> ") := by
  have hcut : ("\"> <h1> " : Text) = "\">" ++ " <h1> " := by decide
  have h : opening (.entity e) = "<article id=\"" ++ e.anchor ++ "\" class=\"" ++ e.kind.tag
      ++ ("\">" ++ " <h1> ") ++ escape e.label ++ " </h1> " ++ supertypes e ++ " <p> "
      ++ escape e.description ++ " </p> <p> " :=
    congrArg (fun middle : Text => "<article id=\"" ++ e.anchor ++ "\" class=\"" ++ e.kind.tag
      ++ middle ++ escape e.label ++ " </h1> " ++ supertypes e ++ " <p> "
      ++ escape e.description ++ " </p> <p> ") hcut
  simp only [h, List.append_assoc]

/-! ## Pages -/

theorem indexItem_eq (e : Entity) :
    indexItem e =
      "  <li>" ++ (("<a href=\"#" ++ e.anchor ++ "\">") ++ escape e.label ++ "</a></li>\n") := by
  have hcut : ("  <li><a href=\"#" : Text) = "  <li>" ++ "<a href=\"#" := by decide
  have h : indexItem e = ("  <li>" ++ "<a href=\"#") ++ e.anchor ++ "\">" ++ escape e.label
      ++ "</a></li>\n" :=
    congrArg (fun front : Text => front ++ e.anchor ++ "\">" ++ escape e.label ++ "</a></li>\n")
      hcut
  simp only [h, List.append_assoc]

def pageOpening : Text :=
  "<!DOCTYPE html>\n<html>\n<head>\n<meta charset=\"utf-8\">\n"
    ++ "<link rel=\"stylesheet\" href=\"style.css\" type=\"text/css\" />\n</head>\n<body>\n<nav>\n"

def pageMiddle : Text := "\n</nav>\n"

def pageClosing : Text := "\n</body>\n</html>\n"

theorem fill_defaultPage (contents index : Text) (fragments : Fragments) :
    (Template.fill defaultPage contents index fragments).1 =
      pageOpening ++ (index ++ (pageMiddle ++ (contents ++ pageClosing))) := by
  have h : defaultPage = pageOpening ++ ((Placeholder.bare "index").source ++
      (pageMiddle ++ ((Placeholder.bare "contents").source ++ pageClosing))) := by
    decide +kernel
  rw [h, Template.fill_append _ _ _ (by decide),
    Template.fill_placeholder _ _ _ (by decide) (by decide),
    Template.fill_append _ _ _ (by decide),
    Template.fill_placeholder _ _ _ (by decide) (by decide),
    Template.fill_of_not_mem _ _ _ (by decide)]
  rfl

end Html
end CommentDocs
