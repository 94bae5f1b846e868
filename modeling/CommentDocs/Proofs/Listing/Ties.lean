import CommentDocs.Proofs.Builder.Consistency
import CommentDocs.Proofs.Listing.Sorted
import Mathlib.Data.List.Pairwise

/-!
# CommentDocs.Proofs.Listing.Ties

How the listing of entities breaks ties. Entities whose labels agree once folded can be told apart
by their labels as they stand and by their kinds. The listing looks at the labels first
(`labelFirst`); if it looked at the kinds first (`kindFirst`), classes would stand before mixins in
every such group. The two orders part over one kind of pair: a mixin whose label comes before that
of a class though both are folded alike (`kindFirst_isLE_iff`). So the listing is in both orders if
and only if there is no such pair (`Builder.entities_labelFirst`).
-/

namespace CommentDocs

theorem Sorting.ascending_iff {α : Type} {order other : α → α → Ordering} [Std.TransCmp order]
    {xs : List α} (h : xs.Pairwise fun a b => order a b = .lt) :
    (xs.Pairwise fun a b => (other a b).isLE = true) ↔
      ∀ a ∈ xs, ∀ b ∈ xs, order a b = .lt → (other a b).isLE = true := by
  constructor
  · intro hother
    -- Of two items one stands first, and only in that direction is the premise met.
    have hboth : xs.Pairwise fun a b =>
        (order a b = .lt → (other a b).isLE = true) ∧
          (order b a = .lt → (other b a).isLE = true) := by
      refine (h.and hother).imp ?_
      rintro a b ⟨hab, hle⟩
      refine ⟨fun _ => hle, fun hba => ?_⟩
      rw [@Std.OrientedCmp.eq_swap α order, hab] at hba
      cases hba
    have hsymm : Std.Symm fun a b => (order a b = .lt → (other a b).isLE = true) ∧
        (order b a = .lt → (other b a).isLE = true) := ⟨fun _ _ hab => ⟨hab.2, hab.1⟩⟩
    have hself : ∀ a ∈ xs, (order a a = .lt → (other a a).isLE = true) ∧
        (order a a = .lt → (other a a).isLE = true) := by
      intro a _
      simp [@Std.ReflCmp.compare_self α order]
    exact fun a ha b hb => (hboth.forall_of_forall hself ha hb).1
  · intro hother
    exact h.imp_of_mem fun {a b} ha hb hab => hother a ha b hb hab

theorem Kind.compare_eq_gt {k l : Kind} : compare k l = .gt ↔ k = .mixin ∧ l = .cls := by
  cases k <;> cases l <;> decide

namespace Entity

variable {fold : Text → Text} {a b : Entity}

/-- Order by label, folded, then by kind, then by label as it stands. -/
def kindFirst (fold : Text → Text) : Entity → Entity → Ordering :=
  compareLex (compareOn fun e => fold e.label) (compareLex (compareOn kind) (compareOn label))

/-- Order by label, folded, then by label as it stands, then by kind. -/
def labelFirst (fold : Text → Text) : Entity → Entity → Ordering :=
  compareLex (compareOn fun e => fold e.label) (compareLex (compareOn label) (compareOn kind))

instance (fold : Text → Text) : Std.TransCmp (labelFirst fold) :=
  inferInstanceAs (Std.TransCmp (compareLex (compareOn fun e : Entity => fold e.label)
    (compareLex (compareOn label) (compareOn kind))))

theorem kindFirst_eq (fold : Text → Text) (a b : Entity) :
    kindFirst fold a b = (compare (fold a.label) (fold b.label)).then
      ((compare a.kind b.kind).then (compare a.label b.label)) := rfl

theorem labelFirst_eq (fold : Text → Text) (a b : Entity) :
    labelFirst fold a b = (compare (fold a.label) (fold b.label)).then
      ((compare a.label b.label).then (compare a.kind b.kind)) := rfl

/-- The name decides nothing in the listing as long as it is also the label. -/
theorem order_eq_labelFirst (ha : a.name = a.label) (hb : b.name = b.label) :
    order fold a b = labelFirst fold a b := by
  have horder : order fold a b = ((compare (fold a.label) (fold b.label)).then
      (compare a.label b.label)).then ((compare a.kind b.kind).then (compare a.name b.name)) := rfl
  rw [horder, labelFirst_eq, ha, hb]
  cases compare (fold a.label) (fold b.label) <;> cases compare a.label b.label <;>
    cases compare a.kind b.kind <;> rfl

/-- The orders part over a mixin before a class whose label is folded alike. -/
theorem kindFirst_isLE_iff (h : labelFirst fold a b = .lt) :
    (kindFirst fold a b).isLE = true ↔
      ¬(a.kind = .mixin ∧ b.kind = .cls ∧ fold a.label = fold b.label) := by
  rw [labelFirst_eq, Ordering.then_eq_lt] at h
  rw [kindFirst_eq]
  rcases h with hfold | ⟨hfold, h⟩
  · have hne : fold a.label ≠ fold b.label := by
      intro heq
      rw [heq, Std.ReflOrd.compare_self] at hfold
      cases hfold
    simp [hfold, hne]
  · have heq : fold a.label = fold b.label := Std.LawfulEqOrd.eq_of_compare hfold
    have hkinds : (a.kind = .mixin ∧ b.kind = .cls ∧ fold a.label = fold b.label) ↔
        compare a.kind b.kind = .gt := by
      rw [Kind.compare_eq_gt]
      simp [heq]
    rw [hfold, hkinds]
    rw [Ordering.then_eq_lt] at h
    cases hk : compare a.kind b.kind with
    | lt => simp
    | gt => simp
    | eq =>
      -- Of one kind, the entities differ in their labels.
      rw [hk] at h
      rcases h with hlabel | ⟨_, hlt⟩
      · simp [hlabel]
      · cases hlt

end Entity

namespace Builder

open Entity (kindFirst labelFirst)

/-- The listing of whatever has been read is in the order of the labels, folded and then as they
stand, and for equal labels of the kinds. That is the order in which kinds are looked at before the
labels as they stand if and only if no mixin has a label that comes before that of a class though
both are the same in lower case. -/
theorem entities_labelFirst (sources : List Text) :
    let ns := (empty.readAll sources).1.result
    (ns.entities.Pairwise fun a b => labelFirst Text.lowercase a b = .lt) ∧
      ((ns.entities.Pairwise fun a b => (kindFirst Text.lowercase a b).isLE = true) ↔
        ∀ m ∈ ns.entities, ∀ c ∈ ns.entities, m.kind = .mixin → c.kind = .cls →
          Text.lowercase m.label = Text.lowercase c.label → compare m.label c.label ≠ .lt) := by
  intro ns
  have hconsistent : (empty.readAll sources).1.Consistent :=
    (Reachable.empty.readAll sources).consistent
  have hname : ∀ e ∈ ns.entities, e.name = e.label := by
    intro e he
    obtain ⟨key, hkey⟩ := Namespace.mem_entities.1 he
    have hstored := hconsistent.stored key e hkey
    rw [hstored.name_eq, hstored.label_eq]
  have hsorted : ns.entities.Pairwise fun a b => labelFirst Text.lowercase a b = .lt := by
    have horder := hconsistent.selfKeyed.entities.increasing_listing
      (@Entity.key_eq_of_order_eq Text.lowercase) (.refl _)
    refine List.Pairwise.imp_of_mem ?_ horder
    intro a b ha hb hab
    rwa [Entity.order_eq_labelFirst (hname a ha) (hname b hb)] at hab
  refine ⟨hsorted, ?_⟩
  rw [Sorting.ascending_iff hsorted]
  constructor
  · intro h m hm c hc hmixin hclass hfold hlabel
    have hlt : labelFirst Text.lowercase m c = .lt := by
      rw [Entity.labelFirst_eq, hfold, Std.ReflOrd.compare_self, hlabel]
      rfl
    exact (Entity.kindFirst_isLE_iff hlt).1 (h m hm c hc hlt) ⟨hmixin, hclass, hfold⟩
  · intro h a ha b hb hlt
    refine (Entity.kindFirst_isLE_iff hlt).2 ?_
    rintro ⟨hmixin, hclass, hfold⟩
    refine h a ha b hb hmixin hclass hfold ?_
    rw [Entity.labelFirst_eq, hfold, Std.ReflOrd.compare_self] at hlt
    rcases Ordering.then_eq_lt.1 hlt with hlt | ⟨_, hlt⟩
    · cases hlt
    · rcases Ordering.then_eq_lt.1 hlt with hlabel | ⟨_, hkind⟩
      · exact hlabel
      · rw [hmixin, hclass] at hkind
        cases hkind

/-- Here the mixin is listed first, though classes come before mixins. -/
theorem mixin_listed_before_class :
    let ns := (empty.readAll ["/**\n * @mixin FOO\n */\n/**\n * @class foo\n */"]).1.result
    ¬ns.entities.Pairwise fun a b => (kindFirst Text.lowercase a b).isLE = true := by
  decide

end Builder
end CommentDocs
