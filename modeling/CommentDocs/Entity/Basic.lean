import Std.Data.ExtTreeMap
import CommentDocs.Entity.Method
import CommentDocs.Sorting
import CommentDocs.Text.Case
import CommentDocs.Text.Order

/-!
# CommentDocs.Entity.Basic

A documented class or mixin. Its methods form a finite map from names, so two entities with the
same contents are equal, whatever the order in which they were documented.

The label of an entity may carry a type suffix behind a colon; the part before the colon is its
display name.
-/

namespace CommentDocs

structure Entity where
  kind : Kind
  name : Text
  label : Text
  description : Text
  methods : Std.ExtTreeMap Text Method
  constructor : Option Method
  supertypes : List Text
deriving DecidableEq

/-- A member of an entity: a method, by its name, or the constructor. -/
inductive Member where
  | method (name : Text)
  | constructor
deriving DecidableEq

namespace Entity

/-- An entity about which only its key is known; the name is also its label. -/
def ofKey (key : EntityKey) : Entity :=
  { kind := key.kind, name := key.name, label := key.name, description := [], methods := ∅,
    constructor := none, supertypes := [] }

def key (e : Entity) : EntityKey := ⟨e.kind, e.name⟩

def displayName (e : Entity) : Text :=
  match Text.splitOnce ':' e.label with
  | none => e.label
  | some (name, _) => name

/-- What stands behind the first colon of the label; an empty suffix is none. -/
def typeSuffix? (e : Entity) : Option Text :=
  match Text.splitOnce ':' e.label with
  | none => none
  | some (_, suffix) => if suffix = [] then none else some suffix

/-- Order of methods in a listing: by name, letter case last. -/
def methodOrder (fold : Text → Text) : Method → Method → Ordering :=
  Sorting.via Method.name (Text.compareFolded fold)

instance (fold : Text → Text) : Std.TransCmp (methodOrder fold) :=
  inferInstanceAs (Std.TransCmp (Sorting.via Method.name (Text.compareFolded fold)))

def methodList (e : Entity) : List Method :=
  Sorting.sort (methodOrder Text.lowercase) e.methods.values

/-- Order of entities in a listing: by label, letter case last, then by kind and by name. -/
def order (fold : Text → Text) : Entity → Entity → Ordering :=
  compareLex (Sorting.via label (Text.compareFolded fold)) (compareOn key)

instance (fold : Text → Text) : Std.TransCmp (order fold) :=
  inferInstanceAs (Std.TransCmp
    (compareLex (Sorting.via label (Text.compareFolded fold)) (compareOn key)))

theorem order_eq_eq {fold : Text → Text} {a b : Entity} :
    order fold a b = .eq ↔ a.label = b.label ∧ a.key = b.key := by
  rw [order, compareLex, Ordering.then_eq_eq, Sorting.via, Text.compareFolded_eq_eq, compareOn,
    Std.LawfulEqOrd.compare_eq_iff_eq]

def member? (e : Entity) : Member → Option Method
  | .method name => e.methods[name]?
  | .constructor => e.constructor

/-- Changes a member; nothing happens if the entity has no such member. -/
def modifyMember (e : Entity) (f : Method → Method) : Member → Entity
  | .method name => { e with methods := e.methods.modify name f }
  | .constructor => { e with constructor := e.constructor.map f }

/-- Sets the description of a method, which is added if it is new. -/
def describeMethod (e : Entity) (name description : Text) : Entity :=
  let methods := e.methods.insertIfNew name (Method.ofName e.key name)
  { e with methods := methods.modify name fun m => { m with description } }

/-- Gives the entity a constructor in place of any that it had. -/
def replaceConstructor (e : Entity) (description : Text) : Entity :=
  { e with constructor := some (Method.newConstructor e.key description) }

def addSupertype (e : Entity) (name : Text) : Entity :=
  { e with supertypes := e.supertypes ++ [name] }

/-! ## Members after each operation -/

theorem member?_modifyMember (e : Entity) (f : Method → Method) (m n : Member) :
    (e.modifyMember f m).member? n = if m = n then (e.member? n).map f else e.member? n := by
  cases m with
  | method name =>
    cases n with
    | method other =>
      simp only [modifyMember, member?, Std.ExtTreeMap.getElem?_modify,
        Std.LawfulEqOrd.compare_eq_iff_eq, Member.method.injEq]
      by_cases h : name = other
      · simp [h]
      · simp [h]
    | constructor => simp [modifyMember, member?]
  | constructor =>
    cases n with
    | method other => simp [modifyMember, member?]
    | constructor => simp [modifyMember, member?]

theorem member?_describeMethod (e : Entity) (name description : Text) (n : Member) :
    (e.describeMethod name description).member? n =
      if n = .method name then
        some { (e.methods[name]?).getD (Method.ofName e.key name) with description }
      else e.member? n := by
  cases n with
  | constructor => simp [describeMethod, member?]
  | method other =>
    simp only [describeMethod, member?, Std.ExtTreeMap.getElem?_modify,
      Std.ExtTreeMap.getElem?_insertIfNew, Std.LawfulEqOrd.compare_eq_iff_eq, Member.method.injEq]
    by_cases h : name = other
    · subst h
      cases hm : e.methods[name]? with
      | none =>
        have hn : name ∉ e.methods := by rw [Std.ExtTreeMap.mem_iff_isSome_getElem?, hm]; simp
        simp [hn]
      | some m =>
        have hn : name ∈ e.methods := by rw [Std.ExtTreeMap.mem_iff_isSome_getElem?, hm]; rfl
        simp [hn]
    · have h' : ¬other = name := fun e => h e.symm
      simp [h, h']

end Entity
end CommentDocs
