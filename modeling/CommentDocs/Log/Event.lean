import CommentDocs.Entity.Kind
import CommentDocs.Disk.FileError

/-!
# CommentDocs.Log.Event

What a run has to report besides its output. Reading and building never fail; what they leave out
is an event.
-/

namespace CommentDocs

/-- Something to report; labels, names and paths are given as they were met. -/
inductive Event where
  /-- A remark with a tag that means nothing here. -/
  | unknownTag (tag label : Text)
  /-- A remark that belongs to an entity, while no entity is in focus. -/
  | outsideEntity (tag label : Text)
  /-- A remark that belongs to a method or constructor, while none is in focus. -/
  | outsideMethod (tag label : Text)
  /-- A return value on a constructor. -/
  | constructorReturn (label : Text)
  /-- A declaration of an entity that is already known. -/
  | repeatedDeclaration (key : EntityKey)
  | newEntity (key : EntityKey)
  | fragmentUnreadable (path : Text) (error : FileError)
  | fragmentMissing (name : Text)
  | patternUnmatched (pattern : Text)
  | inputSkipped (path : Text) (error : FileError)
  | inputRead (path : Text)
  | nothingFound
  | inputsParsed (entities files : Nat)
  | pageWritten (page path : Text)
deriving DecidableEq

namespace Event

def isDrop : Event → Bool
  | .unknownTag .. | .outsideEntity .. | .outsideMethod .. | .constructorReturn .. => true
  | _ => false

end Event
end CommentDocs
