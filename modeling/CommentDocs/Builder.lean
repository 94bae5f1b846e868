import CommentDocs.Remark
import CommentDocs.Comment
import CommentDocs.Log.Event
import CommentDocs.Namespace

/-!
# CommentDocs.Builder

A namespace under construction. Remarks are applied one at a time; each goes to what is in
focus: an entity, and within it possibly one member, to which parameters and return values belong.
The focus lasts over comments and over source texts until another remark moves it.

Applying a remark never fails. One that does not belong anywhere changes nothing and is
reported by an event.
-/

namespace CommentDocs

/-- An entity, and possibly one of its members. -/
structure Focus where
  entity : EntityKey
  member : Option Member
deriving DecidableEq

inductive Tag where
  | entity (kind : Kind)
  | method
  | constructor
  | supertype
  | param
  | returns
deriving DecidableEq

def Tag.ofText? (t : Text) : Option Tag :=
  match Kind.ofTag? t with
  | some kind => some (.entity kind)
  | none =>
    if t = "method" then some .method
    else if t = "constructor" then some .constructor
    else if t = "extends" then some .supertype
    else if t = "param" then some .param
    else if t = "return" then some .returns
    else none

/-- The two cursors are kept apart: nothing but the handlers sees to it that a member is in focus
only within an entity. -/
structure Builder where
  result : Namespace
  entityFocus : Option EntityKey
  memberFocus : Option Member
deriving DecidableEq

namespace Builder

def empty : Builder := ⟨.empty, none, none⟩

/-- What is in focus, as long as an entity is. -/
def focus (b : Builder) : Option Focus := b.entityFocus.map fun key => ⟨key, b.memberFocus⟩

def focused? (b : Builder) : Option (EntityKey × Entity) :=
  match b.entityFocus with
  | none => none
  | some key => (b.result.get? key).map fun e => (key, e)

def focusedMember? (b : Builder) : Option (EntityKey × Member × Method) :=
  match b.entityFocus, b.memberFocus with
  | some key, some member =>
    ((b.result.get? key).bind (·.member? member)).map fun m => (key, member, m)
  | _, _ => none

/-- Declares an entity. It becomes the focus, and what is said about it replaces what was said
before; its members stay. -/
def declare (b : Builder) (key : EntityKey) (description : Text) : Builder × List Event :=
  let result := (b.result.ensure key).modify key fun e => { e with label := key.name, description }
  (⟨result, some key, none⟩,
    [if b.result.contains key then .repeatedDeclaration key else .newEntity key])

/-- Changes the entity in focus and moves the focus within it as `member` says, or reports that
there is no such entity. -/
def inEntity (b : Builder) (a : Remark) (change : Entity → Entity)
    (member : Option Member → Option Member) : Builder × List Event :=
  match b.focused? with
  | none => (b, [.outsideEntity a.tag a.label])
  | some (key, _) =>
    (⟨b.result.modify key change, b.entityFocus, member b.memberFocus⟩, [])

/-- Changes the member in focus unless `refuse` has an event against it, or reports that there is no
such member. -/
def inMember (b : Builder) (a : Remark) (refuse : Method → Option Event)
    (change : Method → Method) : Builder × List Event :=
  match b.focusedMember? with
  | none => (b, [.outsideMethod a.tag a.label])
  | some (key, member, m) =>
    match refuse m with
    | some event => (b, [event])
    | none => ({ b with result := b.result.modify key (·.modifyMember change member) }, [])

/-- Applies one remark; a preamble says nothing. -/
def apply (b : Builder) (a : Remark) : Builder × List Event :=
  if a.isPreamble then (b, [])
  else
    match Tag.ofText? a.tag with
    | none => (b, [.unknownTag a.tag a.label])
    | some (.entity kind) => b.declare ⟨kind, a.label⟩ a.text
    | some .method =>
      b.inEntity a (·.describeMethod a.label a.text) fun _ => some (.method a.label)
    | some .constructor =>
      b.inEntity a (·.replaceConstructor (a.label ++ a.text)) fun _ => some .constructor
    | some .supertype => b.inEntity a (·.addSupertype a.label) id
    | some .param => b.inMember a (fun _ => none) (·.addParam ⟨a.label, a.text⟩)
    | some .returns =>
      b.inMember a (fun m => if m.isConstructor then some (.constructorReturn a.label) else none)
        (·.setReturn ⟨a.label, a.text⟩)

def applyAll (b : Builder) : List Remark → Builder × List Event
  | [] => (b, [])
  | a :: rest =>
    let (b, events) := b.apply a
    let (b, more) := b.applyAll rest
    (b, events ++ more)

def read (b : Builder) (source : Text) : Builder × List Event :=
  b.applyAll ((Comment.bodies source).flatMap Remark.ofBody)

/-- Reads source texts one after the other. A comment does not reach over the end of its text, the
focus does. -/
def readAll (b : Builder) : List Text → Builder × List Event
  | [] => (b, [])
  | source :: rest =>
    let (b, events) := b.read source
    let (b, more) := b.readAll rest
    (b, events ++ more)

theorem applyAll_append (b : Builder) (as bs : List Remark) :
    b.applyAll (as ++ bs) =
      (((b.applyAll as).1.applyAll bs).1,
        (b.applyAll as).2 ++ ((b.applyAll as).1.applyAll bs).2) := by
  induction as generalizing b with
  | nil => rfl
  | cons a as ih => simp [applyAll, ih, List.append_assoc]

end Builder

def Namespace.ofSource (source : Text) : Namespace × List Event :=
  let (b, events) := Builder.empty.read source
  (b.result, events)

end CommentDocs
