import CommentDocs.Entity.Basic

/-!
# CommentDocs.Namespace

All documented entities, as a finite map from their keys. Equality of namespaces is equality of
contents; every listing is sorted, so it is a function of the contents alone.
-/

namespace CommentDocs

structure Namespace where
  table : Std.ExtTreeMap EntityKey Entity
deriving DecidableEq

namespace Namespace

def empty : Namespace := ⟨∅⟩

def size (ns : Namespace) : Nat := ns.table.size

def isEmpty (ns : Namespace) : Bool := ns.table.isEmpty

def get? (ns : Namespace) (key : EntityKey) : Option Entity := ns.table[key]?

def contains (ns : Namespace) (key : EntityKey) : Bool := ns.table.contains key

/-- Adds an entity about which nothing is known, unless the key is already taken. -/
def ensure (ns : Namespace) (key : EntityKey) : Namespace :=
  ⟨ns.table.insertIfNew key (Entity.ofKey key)⟩

/-- Changes the entity under a key; nothing happens if there is none. -/
def modify (ns : Namespace) (key : EntityKey) (f : Entity → Entity) : Namespace :=
  ⟨ns.table.modify key f⟩

def entities (ns : Namespace) : List Entity :=
  Sorting.sort (Entity.order Text.lowercase) ns.table.values

/-! ## What is under a key after each operation -/

theorem ext {a b : Namespace} (h : ∀ key, a.get? key = b.get? key) : a = b := by
  obtain ⟨a⟩ := a
  obtain ⟨b⟩ := b
  rw [mk.injEq]
  exact Std.ExtTreeMap.ext_getElem? h

@[simp] theorem get?_empty (key : EntityKey) : empty.get? key = none := by simp [empty, get?]

theorem get?_ensure (ns : Namespace) (key k : EntityKey) :
    (ns.ensure key).get? k =
      if key = k then some ((ns.get? k).getD (Entity.ofKey key)) else ns.get? k := by
  simp only [ensure, get?, Std.ExtTreeMap.getElem?_insertIfNew, Std.LawfulEqOrd.compare_eq_iff_eq]
  by_cases hk : key = k
  · subst hk
    cases h : ns.table[key]? with
    | none =>
      have hm : key ∉ ns.table := by rw [Std.ExtTreeMap.mem_iff_isSome_getElem?, h]; simp
      simp [hm]
    | some e =>
      have hm : key ∈ ns.table := by rw [Std.ExtTreeMap.mem_iff_isSome_getElem?, h]; rfl
      simp [hm]
  · simp [hk]

theorem get?_modify (ns : Namespace) (key k : EntityKey) (f : Entity → Entity) :
    (ns.modify key f).get? k = if key = k then (ns.get? k).map f else ns.get? k := by
  simp only [modify, get?, Std.ExtTreeMap.getElem?_modify, Std.LawfulEqOrd.compare_eq_iff_eq]
  by_cases hk : key = k
  · simp [hk]
  · simp [hk]

end Namespace
end CommentDocs
