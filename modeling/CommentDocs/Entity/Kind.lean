import CommentDocs.Text.Basic

/-!
# CommentDocs.Entity.Kind

The kinds of documented entity, and the key under which an entity is known: its kind and its name.
A class and a mixin of the same name are two entities. Keys are ordered by kind, classes first,
then by name.
-/

namespace CommentDocs

inductive Kind where
  | cls
  | mixin
deriving DecidableEq, Ord

namespace Kind

/-- The tag that declares an entity of this kind. -/
def tag : Kind → Text
  | .cls => "class"
  | .mixin => "mixin"

def ofTag? (t : Text) : Option Kind :=
  if t = Kind.cls.tag then some .cls else if t = Kind.mixin.tag then some .mixin else none

theorem ofTag?_eq_some {t : Text} {k : Kind} : ofTag? t = some k ↔ t = k.tag := by
  constructor
  · intro h
    rw [ofTag?] at h
    split at h
    · cases h; assumption
    · split at h
      · cases h; assumption
      · cases h
  · rintro rfl
    cases k <;> decide

theorem tag_injective : Function.Injective tag := by
  intro k l h
  have hk := ofTag?_eq_some.2 (rfl : k.tag = k.tag)
  rw [ofTag?_eq_some.2 h] at hk
  exact (Option.some.inj hk).symm

instance : Std.TransOrd Kind where
  eq_swap {a b} := by cases a <;> cases b <;> rfl
  isLE_trans {a b c} := by cases a <;> cases b <;> cases c <;> decide

instance : Std.LawfulEqOrd Kind where
  eq_of_compare {a b} := by cases a <;> cases b <;> decide

end Kind

structure EntityKey where
  kind : Kind
  name : Text
deriving DecidableEq

namespace EntityKey

instance : Ord EntityKey := ⟨compareLex (compareOn kind) (compareOn name)⟩

instance : Std.TransOrd EntityKey :=
  inferInstanceAs (Std.TransCmp (compareLex (compareOn kind) (compareOn name)))

instance : Std.LawfulEqOrd EntityKey where
  eq_of_compare {a b} h := by
    have h : (compare a.kind b.kind).then (compare a.name b.name) = .eq := h
    rw [Ordering.then_eq_eq] at h
    obtain ⟨ka, na⟩ := a
    obtain ⟨kb, nb⟩ := b
    simp only [Std.LawfulEqOrd.compare_eq_iff_eq] at h
    obtain ⟨rfl, rfl⟩ := h
    rfl

end EntityKey
end CommentDocs
