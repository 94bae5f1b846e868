import CommentDocs.Format.Anchor
import CommentDocs.Namespace

/-!
# CommentDocs.Format.Json

Documentation as JSON. `Json` is the part of the format that documentation needs, `pretty` its
printed form: two spaces for each level, a field or an item to a line, an empty array on one line.
In the documentation of a namespace the fields of an object are in alphabetical order.
-/

namespace CommentDocs

inductive Json where
  | null
  | string (t : Text)
  | array (items : List Json)
  | object (fields : List (Text × Json))

namespace Json

/-! ## Printed form -/

/-- A control character that has no short escape, by its code point in four digits. -/
def controlEscape (c : Char) : Text :=
  let digits := Nat.toDigits 16 c.toNat
  "\\u" ++ List.replicate (4 - digits.length) '0' ++ digits

def stringChar (c : Char) : Text :=
  match c with
  | '"' => "\\\""
  | '\\' => "\\\\"
  | '\x08' => "\\b"
  | '\x0c' => "\\f"
  | '\n' => "\\n"
  | '\r' => "\\r"
  | '\t' => "\\t"
  | c => if c.toNat < 0x20 then controlEscape c else [c]

def stringText (t : Text) : Text := "\"" ++ t.flatMap stringChar ++ "\""

def newline (depth : Nat) : Text := '\n' :: List.replicate (2 * depth) ' '

def block (left right : Char) (depth : Nat) : List Text → Text
  | [] => [left, right]
  | items =>
    left :: List.intercalate "," (items.map (newline (depth + 1) ++ ·)) ++ newline depth
      ++ [right]

mutual

def pretty (depth : Nat) : Json → Text
  | .null => "null"
  | .string t => stringText t
  | .array items => block '[' ']' depth (prettyItems (depth + 1) items)
  | .object fields => block '\x7b' '\x7d' depth (prettyFields (depth + 1) fields)

def prettyItems (depth : Nat) : List Json → List Text
  | [] => []
  | v :: vs => pretty depth v :: prettyItems depth vs

def prettyFields (depth : Nat) : List (Text × Json) → List Text
  | [] => []
  | (name, v) :: fs => (stringText name ++ ": " ++ pretty depth v) :: prettyFields depth fs

end

def document (v : Json) : Text := pretty 0 v ++ "\n"

/-! ## Documentation -/

def ofParam (p : Param) : Json :=
  object [("description", string p.description), ("label", string p.label)]

/-- A member names its owner without the kind; a missing return value is left out. -/
def ofMethod (m : Method) : Json :=
  let returns : List (Text × Json) := m.returns.toList.map fun p => ("return", ofParam p)
  object (("description", string m.description) :: ("label", string m.label)
    :: ("name", string m.name) :: ("owner", string m.owner.name)
    :: ("params", array (m.params.map ofParam)) :: returns)

def ofEntityWith (methods : List Method) (e : Entity) : Json :=
  object [("anchor", string e.anchor),
    ("constructor", (e.constructor.map ofMethod).getD null),
    ("description", string e.description),
    ("extends", array (e.supertypes.map string)),
    ("kind", string e.kind.tag),
    ("label", string e.label),
    ("methods", array (methods.map ofMethod))]

def ofEntity (e : Entity) : Json := ofEntityWith e.methodList e

def ofNamespace (ns : Namespace) : Json :=
  object [("entities", array (ns.entities.map ofEntity))]

def indexEntry (e : Entity) : Json :=
  object [("kind", string e.kind.tag), ("label", string e.label), ("anchor", string e.anchor)]

def index (ns : Namespace) : Json := array (ns.entities.map indexEntry)

end Json
end CommentDocs
