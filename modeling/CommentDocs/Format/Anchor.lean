import CommentDocs.Entity.Basic
import CommentDocs.Text.Alphanumeric
import CommentDocs.Text.Blank

/-!
# CommentDocs.Format.Anchor

The anchor of an entity: the name under which the heading of the entity can be linked to. It is
made of the kind and of the display name in lower case, reduced to letters, digits and hyphens.
-/

namespace CommentDocs

/-- The text in lower case, without characters other than letters, digits, spaces and hyphens, and
with hyphens for spaces. -/
def Text.slug (t : Text) : Text :=
  ((Text.lowercase (Text.trim t)).filter fun c => Text.isAlphanumeric c || c = ' ' || c = '-').map
    fun c => if c = ' ' then '-' else c

namespace Entity

def anchor (e : Entity) : Text := e.kind.tag ++ "-" ++ Text.slug e.displayName

def indexLine (e : Entity) : Text := "* [" ++ e.label ++ "](#" ++ e.anchor ++ ")"

end Entity
end CommentDocs
