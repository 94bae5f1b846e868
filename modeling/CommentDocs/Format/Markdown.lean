import CommentDocs.Format.Anchor
import CommentDocs.Namespace

/-!
# CommentDocs.Format.Markdown

Documentation as Markdown: an index, then a section for each entity. A section is a list of blocks
joined by line ends; a block that ends with a line end of its own is followed by an empty line.
-/

namespace CommentDocs
namespace Markdown

def escapeChar : Char → Text
  | '<' => "\\<"
  | '>' => "\\>"
  | c => [c]

def escape (t : Text) : Text := t.flatMap escapeChar

def code (t : Text) : Text := "`" ++ t ++ "`"

/-- The blocks of a description; a blank one has none. -/
def description (t : Text) : List Text :=
  match Text.trim t with
  | [] => []
  | t => [escape t, []]

def item (p : Param) : Text :=
  "* " ++ code p.label ++
    match Text.trim p.description with
    | [] => []
    | t => ": " ++ escape t

def params : List Param → List Text
  | [] => []
  | ps => ("#### Parameters\n" : Text) :: ps.map item ++ [[]]

def returns : Option Param → List Text
  | none => []
  | some p => ["#### Returns\n", item p, []]

def member (m : Method) : List Text :=
  description m.description ++ params m.params ++ returns m.returns

def constructor (m : Method) : List Text :=
  ("### Constructor\n\n" ++ code m.label ++ "\n") :: member m

def method (m : Method) : List Text := ("### " ++ code m.label ++ "\n") :: member m

def title (e : Entity) : Text :=
  match e.typeSuffix? with
  | some suffix => code e.displayName ++ ": " ++ code suffix
  | none => code e.label

def heading (e : Entity) : Text :=
  "<a id=\"" ++ e.anchor ++ "\"></a>\n\n## " ++ e.kind.tag ++ " " ++ title e ++ "\n"

def supertypes : List Text → List Text
  | [] => []
  | names => ["Extends " ++ List.intercalate ", " (names.map code) ++ "\n"]

def blocksWith (methods : List Method) (e : Entity) : List Text :=
  heading e :: supertypes e.supertypes ++ description e.description
    ++ e.constructor.toList.flatMap constructor ++ methods.flatMap method

def blocks (e : Entity) : List Text := blocksWith e.methodList e

def entity (e : Entity) : Text := List.intercalate "\n" (blocks e)

def index (ns : Namespace) : Text := Text.unlines (ns.entities.map Entity.indexLine)

/-- The index, unless it is empty, and the sections. -/
def everythingWith (index : Text) (sections : List Text) : Text :=
  (match index with
    | [] => []
    | lines => "## Index\n\n" ++ lines ++ "\n")
    ++ Text.unlines sections

def everything (ns : Namespace) : Text := everythingWith (index ns) (ns.entities.map entity)

end Markdown
end CommentDocs
