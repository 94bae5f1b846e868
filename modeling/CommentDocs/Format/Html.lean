import CommentDocs.Format.Anchor
import CommentDocs.Node
import CommentDocs.Text.Scan

/-!
# CommentDocs.Format.Html

Documentation as HTML. Labels and descriptions are escaped; after that a pass over the text puts
markup for the shorthands of authors and an arrow for the arrow of a signature (`substitute`).

The pass is made at every node of the tree and once more over the finished page. `visitWith` takes
the pass as a parameter, so that `raw`, the text without any pass, is the same function.
-/

namespace CommentDocs
namespace Html

/-! ## Escapes and shorthands -/

def escapeChar : Char → Text
  | '&' => "&amp;"
  | '<' => "&#60;"
  | '>' => "&#62;"
  | c => [c]

/-- The text with character references for the characters that open markup. -/
def escape (t : Text) : Text := t.flatMap escapeChar

/-- Escaped shorthands and what stands for them in a page. -/
def symbols : List (Text × Text) :=
  [("--&#62;", "&rarr;"), ("[code]", "<code>"), ("[/code]", "</code>"), ("[p]", "<p>"),
    ("[/p]", "</p>"), ("[url]", "<a href=\"\">"), ("[/url]", "</a>")]

def substituteBy (table : List (Text × Text)) (t : Text) : Text :=
  table.foldl (fun t (old, new) => Text.replace old new t) t

def substitute (t : Text) : Text := substituteBy symbols t

/-! ## Nodes -/

section Visit

variable (pass : Text → Text)

def param (p : Param) : Text :=
  pass ("<div class=\"param\"> <div class=\"param_type\"> &larr; " ++ escape p.label
    ++ " </div> <div class=\"param_desc\"> " ++ escape p.description ++ " </div> </div>")

def returns (p : Param) : Text :=
  pass ("<div class=\"return\"> <div class=\"return_type\"> &rarr; " ++ escape p.label
    ++ " </div> <div class=\"return_desc\"> " ++ escape p.description ++ " </div> </div>")

def signature (m : Method) : Text :=
  List.intercalate " " (m.params.map (param pass) ++ m.returns.toList.map (returns pass))

def member (heading : Text) (m : Method) : Text :=
  pass ("<section> <h2> " ++ heading ++ " </h2> " ++ signature pass m
    ++ " <div class=\"method_desc\"> " ++ escape m.description ++ " </div> </section>")

def constructor (m : Method) : Text := member pass "Constructor" m

def method (m : Method) : Text := member pass (escape m.label) m

/-- The line that names what an entity extends; empty if there is nothing to name. -/
def supertypes (e : Entity) : Text :=
  match e.supertypes with
  | [] => []
  | names =>
    "<div class=\"extends\"> extends " ++ List.intercalate ", " (names.map escape) ++ " </div>"

def entity (e : Entity) : Text :=
  pass ("<article id=\"" ++ e.anchor ++ "\" class=\"" ++ e.kind.tag ++ "\"> <h1> "
    ++ escape e.label ++ " </h1> " ++ supertypes e ++ " <p> " ++ escape e.description
    ++ " </p> <p> "
    ++ List.intercalate " "
      (e.constructor.toList.map (constructor pass) ++ e.methodList.map (method pass))
    ++ " </p> </article>")

def everything (ns : Namespace) : Text :=
  pass ("<div class=\"everything\">\n" ++ List.intercalate " " (ns.entities.map (entity pass))
    ++ "\n</div>\n")

/-- The text of a node and of all nodes below it, with a pass at each of them. -/
def visitWith : Node → Text
  | .everything ns => everything pass ns
  | .entity e => entity pass e
  | .constructor m => constructor pass m
  | .method m => method pass m
  | .param p => param pass p
  | .returns p => returns pass p

end Visit

def visit (n : Node) : Text := visitWith substitute n

/-- The text of a node with its shorthands as they were written. -/
def raw (n : Node) : Text := visitWith id n

/-! ## Pages -/

def indexItem (e : Entity) : Text :=
  "  <li><a href=\"#" ++ e.anchor ++ "\">" ++ escape e.label ++ "</a></li>\n"

/-- The list of links to all entities; empty if there are none. -/
def index (ns : Namespace) : Text :=
  match ns.entities with
  | [] => []
  | es => "<ul class=\"index\">\n" ++ es.flatMap indexItem ++ "</ul>"

/-- The template of a page for which no other is given. -/
def defaultPage : Text :=
  "<!DOCTYPE html>\n<html>\n<head>\n<meta charset=\"utf-8\">\n"
    ++ "<link rel=\"stylesheet\" href=\"style.css\" type=\"text/css\" />\n</head>\n<body>\n"
    ++ "<nav>\n%(index)\n</nav>\n%(contents)\n</body>\n</html>\n"

end Html
end CommentDocs
