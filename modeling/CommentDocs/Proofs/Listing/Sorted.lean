import CommentDocs.Namespace
import Mathlib.Data.List.Basic

/-!
# CommentDocs.Proofs.Listing.Sorted

Sorted listings of what a map holds. In a map that stores each value under its own key
(`StoredByKey`), an order that tells keys apart leaves one way only to list the values: a sort gives
a strictly increasing list (`increasing_sort`), the same one from whatever order the values come in
(`sort_eq_of_perm`). Both listings of the library are of this kind, for entities and for methods.
-/

namespace CommentDocs

namespace Sorting

variable {α : Type} {order : α → α → Ordering} {xs ys : List α}

theorem mem_sort {a : α} : a ∈ sort order xs ↔ a ∈ xs := (sort_perm order xs).mem_iff

theorem sort_eq_of_perm [Std.TransCmp order] (hp : xs.Perm ys)
    (h : ∀ a ∈ xs, ∀ b ∈ xs, order a b = .eq → a = b) : sort order xs = sort order ys := by
  have hperm : (sort order xs).Perm (sort order ys) :=
    (sort_perm order xs).trans (hp.trans (sort_perm order ys).symm)
  refine List.Perm.eq_of_pairwise ?_ (pairwise_sort order xs) (pairwise_sort order ys) hperm
  -- Items that stand in both orders compare equal, so they are the same item.
  intro a b ha hb hab hba
  have hb' : b ∈ xs := hp.mem_iff.2 (mem_sort.1 hb)
  refine h a (mem_sort.1 ha) b hb' ?_
  rw [@Std.OrientedCmp.eq_swap α order] at hba
  cases hab' : order a b with
  | lt => rw [hab'] at hba; cases hba
  | eq => rfl
  | gt => rw [hab'] at hab; cases hab

/-- Items that the order tells apart are strictly increasing when sorted. -/
theorem increasing_sort [Std.TransCmp order] (h : xs.Pairwise fun a b => order a b ≠ .eq) :
    (sort order xs).Pairwise fun a b => order a b = .lt := by
  have hsymm : ∀ {a b : α}, order a b ≠ .eq → order b a ≠ .eq := by
    intro a b hab hba
    rw [@Std.OrientedCmp.eq_swap α order, hba] at hab
    exact hab rfl
  have hdistinct := ((sort_perm order xs).pairwise_iff hsymm).2 h
  refine ((pairwise_sort order xs).and hdistinct).imp ?_
  rintro a b ⟨hle, hne⟩
  cases hab : order a b with
  | lt => rfl
  | eq => exact absurd hab hne
  | gt => rw [hab] at hle; cases hle

end Sorting

section Values

variable {κ β : Type} [Ord κ] [Std.TransOrd κ]

theorem values_eq_map_toList (t : Std.ExtTreeMap κ β) : t.values = t.toList.map Prod.snd := by
  have hfold : t.values = t.foldr (fun _ v vs => v :: vs) [] := rfl
  rw [hfold, Std.ExtTreeMap.foldr_eq_foldr_toList, List.map_eq_foldr]

theorem length_values (t : Std.ExtTreeMap κ β) : t.values.length = t.size := by
  rw [values_eq_map_toList, List.length_map, Std.ExtTreeMap.length_toList]

variable [Std.LawfulEqOrd κ]

theorem mem_values {t : Std.ExtTreeMap κ β} {v : β} : v ∈ t.values ↔ ∃ k : κ, t[k]? = some v := by
  rw [values_eq_map_toList, List.mem_map]
  constructor
  · rintro ⟨⟨k, w⟩, hkw, rfl⟩
    exact ⟨k, Std.ExtTreeMap.mem_toList_iff_getElem?_eq_some.1 hkw⟩
  · rintro ⟨k, hk⟩
    exact ⟨(k, v), Std.ExtTreeMap.mem_toList_iff_getElem?_eq_some.2 hk, rfl⟩

/-- Every value is stored under its own key. -/
def StoredByKey (keyOf : β → κ) (t : Std.ExtTreeMap κ β) : Prop :=
  ∀ k v, t[k]? = some v → keyOf v = k

variable {keyOf : β → κ} {t : Std.ExtTreeMap κ β}

theorem storedByKey_iff : StoredByKey keyOf t ↔ ∀ p ∈ t.toList, keyOf p.2 = p.1 := by
  constructor
  · intro h p hp
    exact h p.1 p.2 (Std.ExtTreeMap.mem_toList_iff_getElem?_eq_some.1 hp)
  · intro h k v hk
    exact h (k, v) (Std.ExtTreeMap.mem_toList_iff_getElem?_eq_some.2 hk)

instance [DecidableEq κ] : Decidable (StoredByKey keyOf t) := decidable_of_iff' _ storedByKey_iff

theorem StoredByKey.get?_keyOf (h : StoredByKey keyOf t) {v : β} (hv : v ∈ t.values) :
    t[keyOf v]? = some v := by
  obtain ⟨k, hk⟩ := mem_values.1 hv
  rw [h k v hk, hk]

theorem StoredByKey.eq_of_keyOf_eq (h : StoredByKey keyOf t) {v w : β} (hv : v ∈ t.values)
    (hw : w ∈ t.values) (hkey : keyOf v = keyOf w) : v = w := by
  have hvw : t[keyOf v]? = some w := by rw [hkey, h.get?_keyOf hw]
  rw [h.get?_keyOf hv] at hvw
  exact Option.some.inj hvw

theorem StoredByKey.pairwise_values (h : StoredByKey keyOf t) :
    t.values.Pairwise fun v w => keyOf v ≠ keyOf w := by
  rw [values_eq_map_toList, List.pairwise_map]
  refine (Std.ExtTreeMap.distinct_keys_toList (t := t)).imp_of_mem ?_
  rintro ⟨k, v⟩ ⟨l, w⟩ hv hw hkl hvw
  rw [h k v (Std.ExtTreeMap.mem_toList_iff_getElem?_eq_some.1 hv),
    h l w (Std.ExtTreeMap.mem_toList_iff_getElem?_eq_some.1 hw)] at hvw
  exact hkl (Std.LawfulEqOrd.compare_eq_iff_eq.2 hvw)

theorem StoredByKey.ext_values {s : Std.ExtTreeMap κ β} (hs : StoredByKey keyOf s)
    (ht : StoredByKey keyOf t) (h : ∀ v, v ∈ s.values ↔ v ∈ t.values) : s = t := by
  refine Std.ExtTreeMap.ext_getElem? fun {k} => Option.ext fun v => ?_
  constructor
  · intro hk
    rw [← hs k v hk]
    exact ht.get?_keyOf ((h v).1 (mem_values.2 ⟨k, hk⟩))
  · intro hk
    rw [← ht k v hk]
    exact hs.get?_keyOf ((h v).2 (mem_values.2 ⟨k, hk⟩))

theorem StoredByKey.eq_of_sort_eq {s : Std.ExtTreeMap κ β} (hs : StoredByKey keyOf s)
    (ht : StoredByKey keyOf t) (order : β → β → Ordering)
    (h : Sorting.sort order s.values = Sorting.sort order t.values) : s = t := by
  refine hs.ext_values ht fun v => ?_
  rw [← Sorting.mem_sort, h, Sorting.mem_sort]

variable {order : β → β → Ordering} [Std.TransCmp order] {xs : List β}

theorem StoredByKey.increasing_listing (h : StoredByKey keyOf t)
    (horder : ∀ a b, order a b = .eq → keyOf a = keyOf b) (hp : xs.Perm t.values) :
    (Sorting.sort order xs).Pairwise fun a b => order a b = .lt := by
  have hkeys : xs.Pairwise fun a b => keyOf a ≠ keyOf b :=
    (hp.pairwise_iff fun hab => hab.symm).2 h.pairwise_values
  exact Sorting.increasing_sort (hkeys.imp fun hab heq => hab (horder _ _ heq))

theorem StoredByKey.listing_eq (h : StoredByKey keyOf t)
    (horder : ∀ a b, order a b = .eq → keyOf a = keyOf b) (hp : xs.Perm t.values) :
    Sorting.sort order xs = Sorting.sort order t.values := by
  refine Sorting.sort_eq_of_perm hp fun a ha b hb hab => ?_
  exact h.eq_of_keyOf_eq (hp.mem_iff.1 ha) (hp.mem_iff.1 hb) (horder a b hab)

end Values

/-! ## Entities and methods -/

/-- Every entity is stored under its own key, and every method of it under its own name. -/
structure Namespace.SelfKeyed (ns : Namespace) : Prop where
  entities : StoredByKey Entity.key ns.table
  methods : ∀ e ∈ ns.table.values, StoredByKey Method.name e.methods

instance (ns : Namespace) : Decidable ns.SelfKeyed :=
  decidable_of_iff (StoredByKey Entity.key ns.table ∧
    ∀ e ∈ ns.table.values, StoredByKey Method.name e.methods)
    ⟨fun h => ⟨h.1, h.2⟩, fun h => ⟨h.1, h.2⟩⟩

namespace Entity

variable {fold : Text → Text}

theorem key_eq_of_order_eq (a b : Entity) (h : order fold a b = .eq) : a.key = b.key :=
  (order_eq_eq.1 h).2

theorem name_eq_of_methodOrder_eq (a b : Method) (h : methodOrder fold a b = .eq) :
    a.name = b.name :=
  Text.compareFolded_eq_eq.1 h

theorem mem_methodList {e : Entity} {m : Method} :
    m ∈ e.methodList ↔ ∃ name : Text, e.methods[name]? = some m :=
  Sorting.mem_sort.trans mem_values

end Entity

theorem Namespace.length_entities (ns : Namespace) : ns.entities.length = ns.size := by
  rw [entities, (Sorting.sort_perm _ _).length_eq, length_values]
  rfl

theorem Namespace.mem_entities {ns : Namespace} {e : Entity} :
    e ∈ ns.entities ↔ ∃ key, ns.get? key = some e :=
  Sorting.mem_sort.trans mem_values

theorem Namespace.SelfKeyed.nodup_entities {ns : Namespace} (h : ns.SelfKeyed) :
    ns.entities.Nodup := by
  have hvalues : ns.table.values.Nodup := by
    refine h.entities.pairwise_values.imp ?_
    rintro a b hkey rfl
    exact hkey rfl
  exact (Sorting.sort_perm _ _).nodup_iff.2 hvalues

end CommentDocs
