import CommentDocs.Namespace

/-!
# CommentDocs.Node

The documentation as a tree: the namespace at the root, below it the entities, their members, and
the parameters and return values of these. `children` gives the order in which a document shows
them.
-/

namespace CommentDocs

inductive Node where
  | everything (ns : Namespace)
  | entity (e : Entity)
  | constructor (m : Method)
  | method (m : Method)
  | param (p : Param)
  | returns (p : Param)

namespace Node

def kind : Node → Text
  | .everything _ => "everything"
  | .entity _ => "object"
  | .constructor _ => "constructor"
  | .method _ => "method"
  | .param _ => "param"
  | .returns _ => "return"

def label : Node → Text
  | .everything _ => []
  | .entity e => e.label
  | .constructor m | .method m => m.label
  | .param p | .returns p => p.label

def description : Node → Text
  | .everything _ => []
  | .entity e => e.description
  | .constructor m | .method m => m.description
  | .param p | .returns p => p.description

/-- The nodes below: the constructor of an entity stands before its methods, the return value of a
method behind its parameters. -/
def children : Node → List Node
  | .everything ns => ns.entities.map .entity
  | .entity e => e.constructor.toList.map .constructor ++ e.methodList.map .method
  | .constructor m | .method m => m.params.map .param ++ m.returns.toList.map .returns
  | .param _ | .returns _ => []

end Node
end CommentDocs
