import CommentDocs.Entity.Kind

/-!
# CommentDocs.Entity.Method

Methods and constructors of a documented entity, with their parameters and return value. A method
knows its owner by key only.
-/

namespace CommentDocs

/-- A parameter or a return value: its label (a name or a type) and what is said about it. -/
structure Param where
  label : Text
  description : Text
deriving DecidableEq

/-- A method, or the constructor of an entity, which has an empty name. -/
structure Method where
  name : Text
  description : Text
  params : List Param
  returns : Option Param
  owner : EntityKey
  isConstructor : Bool
deriving DecidableEq

namespace Method

def ofName (owner : EntityKey) (name : Text) : Method :=
  { name, description := [], params := [], returns := none, owner, isConstructor := false }

def newConstructor (owner : EntityKey) (description : Text) : Method :=
  { name := [], description, params := [], returns := none, owner, isConstructor := true }

def addParam (m : Method) (p : Param) : Method := { m with params := m.params ++ [p] }

def setReturn (m : Method) (p : Param) : Method := { m with returns := some p }

def returnType (p : Param) : Text := if p.label = [] then "void" else p.label

/-- The signature shown for a method: its name, the labels of its parameters, and an arrow to the
type it returns if a return value is documented. -/
def label (m : Method) : Text :=
  (if m.isConstructor then ("constructor" : Text) else m.name)
    ++ "(" ++ List.intercalate ", " (m.params.map Param.label) ++ ")"
    ++ match m.returns with
      | none => []
      | some p => " --> " ++ returnType p

end Method
end CommentDocs
