/-!
# CommentDocs.Sorting

Sorting by an order. The sort is by insertion, from the back, so that items that compare equal keep
their order and items that are already sorted stay where they are at no cost. The result holds the
same items (`sort_perm`), and each stands before those that are not less (`pairwise_sort`).
-/

namespace CommentDocs
namespace Sorting

def via {α β : Type} (f : α → β) (order : β → β → Ordering) (a b : α) : Ordering :=
  order (f a) (f b)

instance {α β : Type} (f : α → β) (order : β → β → Ordering) [Std.TransCmp order] :
    Std.TransCmp (via f order) where
  eq_swap {a b} := @Std.OrientedCmp.eq_swap β order _ (f a) (f b)
  isLE_trans {a b c} := @Std.TransCmp.isLE_trans β order _ (f a) (f b) (f c)

/-- Puts an item in front of the first that is not less. -/
def insert {α : Type} (order : α → α → Ordering) (a : α) : List α → List α
  | [] => [a]
  | b :: rest => if (order a b).isLE then a :: b :: rest else b :: insert order a rest

/-- The items of a list in ascending order; items that compare equal keep their order. -/
def sort {α : Type} (order : α → α → Ordering) (items : List α) : List α :=
  items.foldr (insert order) []

theorem insert_perm {α : Type} (order : α → α → Ordering) (a : α) (items : List α) :
    (insert order a items).Perm (a :: items) := by
  induction items with
  | nil => exact .refl _
  | cons b rest ih =>
    rw [insert]
    split
    · exact .refl _
    · exact (ih.cons b).trans (.swap a b rest)

theorem sort_perm {α : Type} (order : α → α → Ordering) (items : List α) :
    (sort order items).Perm items := by
  induction items with
  | nil => exact .refl _
  | cons a rest ih => exact (insert_perm order a _).trans (ih.cons a)

theorem mem_insert {α : Type} {order : α → α → Ordering} {a b : α} {items : List α} :
    b ∈ insert order a items ↔ b = a ∨ b ∈ items := by
  rw [(insert_perm order a items).mem_iff, List.mem_cons]

theorem pairwise_insert {α : Type} {order : α → α → Ordering} [Std.TransCmp order] (a : α)
    {items : List α} (h : items.Pairwise fun a b => (order a b).isLE = true) :
    (insert order a items).Pairwise fun a b => (order a b).isLE = true := by
  induction items with
  | nil => simp [insert]
  | cons b rest ih =>
    obtain ⟨hb, hrest⟩ := List.pairwise_cons.1 h
    rw [insert]
    split
    · next hab =>
      refine List.pairwise_cons.2 ⟨fun c hc => ?_, h⟩
      rcases List.mem_cons.1 hc with rfl | hc
      · exact hab
      · exact Std.TransCmp.isLE_trans hab (hb c hc)
    · next hab =>
      refine List.pairwise_cons.2 ⟨fun c hc => ?_, ih hrest⟩
      rcases mem_insert.1 hc with rfl | hc
      · rw [@Std.OrientedCmp.eq_swap α order]
        cases hcb : order c b <;> simp_all
      · exact hb c hc

theorem pairwise_sort {α : Type} (order : α → α → Ordering) [Std.TransCmp order]
    (items : List α) : (sort order items).Pairwise fun a b => (order a b).isLE = true := by
  induction items with
  | nil => exact .nil
  | cons a rest ih => exact pairwise_insert a ih

end Sorting
end CommentDocs
