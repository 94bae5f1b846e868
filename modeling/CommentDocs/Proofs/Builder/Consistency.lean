import CommentDocs.Proofs.Builder.Apply
import CommentDocs.Proofs.Listing.Sorted

/-!
# CommentDocs.Proofs.Builder.Consistency

The cursors of a builder are a key and the name of a member, each on its own, and not the entity and
the method themselves. So nothing but the handlers keeps them from pointing at what is not there, or
a member from being in focus when no entity is. `Builder.Consistent` says that neither happens, and
that everything stored is stored under its own key and name.

* `Consistent.apply`: one remark, whatever it is, keeps a builder consistent.
* `Reachable.consistent`: so do all remarks and all source texts, in any order, from the empty
  builder on.
-/

namespace CommentDocs

/-- What is stored as a member of the entity `owner` tells its own place. A constructor has an empty
name and never a return value. -/
def Member.Stores (owner : EntityKey) : Member → Method → Prop
  | .method name, m => m.name = name ∧ m.owner = owner ∧ m.isConstructor = false
  | .constructor, m => m.name = [] ∧ m.owner = owner ∧ m.isConstructor = true ∧ m.returns = none

namespace Entity

/-- What is stored as the entity with a key tells that key. -/
structure Consistent (key : EntityKey) (e : Entity) : Prop where
  kind_eq : e.kind = key.kind
  name_eq : e.name = key.name
  label_eq : e.label = key.name
  members : ∀ n m, e.member? n = some m → n.Stores key m

theorem consistent_ofKey (key : EntityKey) : (ofKey key).Consistent key where
  kind_eq := rfl
  name_eq := rfl
  label_eq := rfl
  members n m h := by cases n <;> simp [ofKey, member?] at h

namespace Consistent

variable {key : EntityKey} {e : Entity}

theorem key_eq (h : e.Consistent key) : e.key = key := by
  rw [Entity.key, h.kind_eq, h.name_eq]

theorem methods_storedByKey (h : e.Consistent key) : StoredByKey Method.name e.methods := by
  intro name m hm
  exact (h.members (.method name) m hm).1

theorem redescribe (h : e.Consistent key) (description : Text) :
    { e with label := key.name, description }.Consistent key :=
  ⟨h.kind_eq, h.name_eq, rfl, fun n m hm => h.members n m hm⟩

theorem describeMethod (h : e.Consistent key) (name description : Text) :
    (e.describeMethod name description).Consistent key := by
  refine ⟨h.kind_eq, h.name_eq, h.label_eq, ?_⟩
  intro n m hm
  rw [member?_describeMethod] at hm
  split at hm
  · rename_i hn; subst hn; cases hm
    cases hold : e.methods[name]? with
    | none => exact ⟨rfl, h.key_eq, rfl⟩
    | some old => exact h.members (.method name) old hold
  · exact h.members n m hm

theorem replaceConstructor (h : e.Consistent key) (description : Text) :
    (e.replaceConstructor description).Consistent key := by
  refine ⟨h.kind_eq, h.name_eq, h.label_eq, ?_⟩
  intro n m hm
  cases n with
  | method name => exact h.members (.method name) m hm
  | constructor =>
    cases hm
    exact ⟨rfl, h.key_eq, rfl, rfl⟩

theorem addSupertype (h : e.Consistent key) (name : Text) :
    (e.addSupertype name).Consistent key := by
  refine ⟨h.kind_eq, h.name_eq, h.label_eq, ?_⟩
  intro n m hm
  cases n with
  | method other => exact h.members (.method other) m hm
  | constructor => exact h.members .constructor m hm

theorem modifyMember (h : e.Consistent key) {f : Method → Method} {n : Member}
    (hf : ∀ m, e.member? n = some m → n.Stores key (f m)) :
    (e.modifyMember f n).Consistent key := by
  have hmem : ∀ k m, (e.modifyMember f n).member? k = some m → k.Stores key m := by
    intro k m hm
    rw [member?_modifyMember] at hm
    split at hm
    · rename_i hk; subst hk
      obtain ⟨old, hold, rfl⟩ := Option.map_eq_some_iff.1 hm
      exact hf old hold
    · exact h.members k m hm
  cases n with
  | method name => exact ⟨h.kind_eq, h.name_eq, h.label_eq, hmem⟩
  | constructor => exact ⟨h.kind_eq, h.name_eq, h.label_eq, hmem⟩

end Consistent
end Entity

theorem Member.Stores.addParam {owner : EntityKey} {n : Member} {m : Method}
    (h : n.Stores owner m) (p : Param) : n.Stores owner (m.addParam p) := by
  cases n <;> exact h

theorem Member.Stores.setReturn {owner : EntityKey} {n : Member} {m : Method}
    (h : n.Stores owner m) (hm : m.isConstructor = false) (p : Param) :
    n.Stores owner (m.setReturn p) := by
  cases n with
  | method name => exact h
  | constructor =>
    obtain ⟨_, _, hc, _⟩ := h
    rw [hm] at hc; cases hc

namespace Builder

/-- The entity in focus is there, a member in focus is one of its members, and everything stored
tells its own place. -/
structure Consistent (b : Builder) : Prop where
  entity_present : ∀ key, b.entityFocus = some key → ∃ e, b.result.get? key = some e
  member_present : ∀ n, b.memberFocus = some n →
    ∃ key e m, b.entityFocus = some key ∧ b.result.get? key = some e ∧ e.member? n = some m
  stored : ∀ key e, b.result.get? key = some e → e.Consistent key

/-- The builders that come out of the empty one by remarks and source texts. -/
inductive Reachable : Builder → Prop where
  | empty : Reachable .empty
  | apply {b : Builder} (a : Remark) : Reachable b → Reachable (b.apply a).1
  | read {b : Builder} (source : Text) : Reachable b → Reachable (b.read source).1

namespace Consistent

variable {b : Builder}

theorem of_focus (hnone : b.entityFocus = none → b.memberFocus = none)
    (hf : ∀ f, b.focus = some f → ∃ e, b.result.get? f.entity = some e ∧
      ∀ n, f.member = some n → ∃ m, e.member? n = some m)
    (hs : ∀ key e, b.result.get? key = some e → e.Consistent key) : b.Consistent := by
  refine ⟨?_, ?_, hs⟩
  · intro key hkey
    obtain ⟨e, he, _⟩ := hf ⟨key, b.memberFocus⟩ (focus_eq_some.2 ⟨hkey, rfl⟩)
    exact ⟨e, he⟩
  · intro n hn
    cases hkey : b.entityFocus with
    | none => cases hn.symm.trans (hnone hkey)
    | some key =>
      obtain ⟨e, he, hmem⟩ := hf ⟨key, b.memberFocus⟩ (focus_eq_some.2 ⟨hkey, rfl⟩)
      obtain ⟨m, hm⟩ := hmem n hn
      exact ⟨key, e, m, rfl, he, hm⟩

/-- A member is in focus only within an entity. -/
theorem memberFocus_eq_none (h : b.Consistent) (hentity : b.entityFocus = none) :
    b.memberFocus = none := by
  refine Option.eq_none_iff_forall_ne_some.2 fun n hn => ?_
  obtain ⟨key, _, _, hkey, _⟩ := h.member_present n hn
  cases hentity.symm.trans hkey

theorem focused (h : b.Consistent) {f : Focus} (hf : b.focus = some f) :
    ∃ e, b.result.get? f.entity = some e ∧
      ∀ n, f.member = some n → ∃ m, e.member? n = some m := by
  obtain ⟨hentity, hmember⟩ := focus_eq_some.1 hf
  obtain ⟨e, he⟩ := h.entity_present f.entity hentity
  refine ⟨e, he, ?_⟩
  intro n hn
  obtain ⟨key, e', m, hkey, he', hm⟩ := h.member_present n (hmember.trans hn)
  cases hentity.symm.trans hkey
  cases he.symm.trans he'
  exact ⟨m, hm⟩

theorem empty : Builder.empty.Consistent :=
  of_focus (fun _ => rfl) (fun f hf => by cases hf) fun key e he => by simp [Builder.empty] at he

theorem selfKeyed (h : b.Consistent) : b.result.SelfKeyed where
  entities key e he := (h.stored key e he).key_eq
  methods e he := by
    obtain ⟨key, hkey⟩ := mem_values.1 he
    exact (h.stored key e hkey).methods_storedByKey

theorem stored_modify (h : b.Consistent) {key : EntityKey} {change : Entity → Entity}
    (hchange : ∀ e, b.result.get? key = some e → (change e).Consistent key) :
    ∀ k e, (b.result.modify key change).get? k = some e → e.Consistent k := by
  intro k e he
  rw [Namespace.get?_modify] at he
  split at he
  · rename_i hk
    subst hk
    obtain ⟨old, hold, rfl⟩ := Option.map_eq_some_iff.1 he
    exact hchange old hold
  · exact h.stored k e he

/-! ## The handlers -/

theorem declare (h : b.Consistent) (key : EntityKey) (description : Text) :
    (b.declare key description).1.Consistent := by
  refine of_focus (fun hn => by cases hn) ?_ ?_
  · intro f hf
    rw [focus_declare] at hf
    cases hf
    rw [get?_declare, if_pos rfl]
    exact ⟨_, rfl, fun n hn => by cases hn⟩
  · intro k e he
    rw [get?_declare] at he
    split at he
    · rename_i hk; subst hk; cases he
      refine Entity.Consistent.redescribe ?_ description
      cases hold : b.result.get? key with
      | none => exact Entity.consistent_ofKey key
      | some old => exact h.stored key old hold
    · exact h.stored k e he

/-- Changing the entity in focus keeps a builder consistent if the change keeps the entity so and
the member that comes into focus is there after it. -/
theorem inEntity (h : b.Consistent) (a : Remark) {change : Entity → Entity}
    {member : Option Member → Option Member}
    (hchange : ∀ key e, e.Consistent key → (change e).Consistent key)
    (hmember : ∀ e o n, (∀ k, o = some k → ∃ m, e.member? k = some m) → member o = some n →
      ∃ m, (change e).member? n = some m) :
    (b.inEntity a change member).1.Consistent := by
  cases hf : b.focus with
  | none => rw [inEntity_of_none hf]; exact h
  | some f =>
    obtain ⟨e, he, hm⟩ := h.focused hf
    rw [inEntity_of_focus hf he]
    refine of_focus (fun hn => by cases hn) ?_ ?_
    · rintro _ ⟨⟩
      refine ⟨change e, ?_, fun n hn => hmember e f.member n hm hn⟩
      simp only [Namespace.get?_modify, he, if_true, Option.map_some]
    · exact h.stored_modify fun old hold => hchange f.entity old (h.stored f.entity old hold)

/-- Changing the member in focus keeps a builder consistent if the change, where it is not refused,
leaves the member at its place. -/
theorem inMember (h : b.Consistent) (a : Remark) {refuse : Method → Option Event}
    {change : Method → Method}
    (hchange : ∀ (key : EntityKey) (n : Member) m, n.Stores key m → refuse m = none →
      n.Stores key (change m)) :
    (b.inMember a refuse change).1.Consistent := by
  cases hn : b.focus.bind Focus.member with
  | none => rw [inMember_of_none hn]; exact h
  | some n =>
    obtain ⟨f, hf, hfn⟩ := Option.bind_eq_some_iff.1 hn
    obtain ⟨key, member⟩ := f
    cases hfn
    obtain ⟨e, he, hm⟩ := h.focused hf
    obtain ⟨m, hm⟩ := hm n rfl
    rw [inMember_of_focus hf he hm]
    cases hr : refuse m with
    | some event => exact h
    | none =>
      refine of_focus h.memberFocus_eq_none ?_ ?_
      · intro f hf'
        cases hf.symm.trans hf'
        refine ⟨e.modifyMember change n, ?_, ?_⟩
        · simp only [Namespace.get?_modify, he, if_true, Option.map_some]
        · rintro _ ⟨⟩
          exact ⟨change m, by rw [Entity.member?_modifyMember, if_pos rfl, hm]; rfl⟩
      · refine h.stored_modify fun e' he' => ?_
        cases he.symm.trans he'
        refine (h.stored key e he).modifyMember ?_
        intro m' hm'
        cases hm.symm.trans hm'
        exact hchange key n m ((h.stored key e he).members n m hm) hr

/-! ## Remarks and source texts -/

theorem apply (h : b.Consistent) (a : Remark) : (b.apply a).1.Consistent := by
  by_cases ht : ∃ tag : Tag, a.tag = tag.text
  · obtain ⟨tag, ht⟩ := ht
    rw [apply_of_tag ht]
    cases tag with
    | entity kind => exact h.declare ⟨kind, a.label⟩ a.text
    | method =>
      refine h.inEntity a (fun key e he => he.describeMethod a.label a.text) ?_
      rintro e o _ _ ⟨⟩
      rw [Entity.member?_describeMethod, if_pos rfl]
      exact ⟨_, rfl⟩
    | constructor =>
      refine h.inEntity a (fun key e he => he.replaceConstructor (a.label ++ a.text)) ?_
      rintro e o _ _ ⟨⟩
      exact ⟨_, rfl⟩
    | supertype =>
      refine h.inEntity a (fun key e he => he.addSupertype a.label) ?_
      intro e o n ho hn
      obtain ⟨m, hm⟩ := ho n hn
      cases n with
      | method name => exact ⟨m, hm⟩
      | constructor => exact ⟨m, hm⟩
    | param => exact h.inMember a fun key n m hm _ => hm.addParam ⟨a.label, a.text⟩
    | returns =>
      refine h.inMember a ?_
      intro key n m hm hr
      have hc : m.isConstructor = false := by simpa using hr
      exact hm.setReturn hc ⟨a.label, a.text⟩
  · rw [apply_of_unknown (fun tag hn => ht ⟨tag, hn⟩)]
    exact h

theorem applyAll (h : b.Consistent) (as : List Remark) : (b.applyAll as).1.Consistent := by
  induction as generalizing b with
  | nil => exact h
  | cons a as ih => exact ih (h.apply a)

end Consistent

theorem Reachable.applyAll {b : Builder} (h : b.Reachable) (as : List Remark) :
    (b.applyAll as).1.Reachable := by
  induction as generalizing b with
  | nil => exact h
  | cons a as ih => exact ih (h.apply a)

theorem Reachable.readAll {b : Builder} (h : b.Reachable) (sources : List Text) :
    (b.readAll sources).1.Reachable := by
  induction sources generalizing b with
  | nil => exact h
  | cons source sources ih => exact ih (h.read source)

theorem Reachable.consistent {b : Builder} (h : b.Reachable) : b.Consistent := by
  induction h with
  | empty => exact Consistent.empty
  | apply a _ ih => exact ih.apply a
  | read source _ ih => exact ih.applyAll _

/-- Consistency is an invariant: every builder that can be reached has it, and a remark takes no
builder that has it to one that has not, whether that builder can be reached or not. -/
theorem consistency_invariant (b : Builder) :
    (b.Reachable → b.Consistent) ∧ ∀ a, b.Consistent → (b.apply a).1.Consistent :=
  ⟨fun h => h.consistent, fun a h => h.apply a⟩

/-- A constructor in focus, and a return value that is refused there. -/
theorem consistent_around_refused_return :
    let b := (Builder.empty.applyAll [⟨"class", "Foo", []⟩, ⟨"constructor", [], []⟩]).1
    b.memberFocus = some .constructor ∧ b.Consistent ∧
      (b.apply ⟨"return", "Bar", []⟩).1.Consistent := by
  intro b
  have hr : b.Reachable := Reachable.empty.applyAll _
  have hb : b.Consistent := (consistency_invariant b).1 hr
  exact ⟨rfl, hb, (consistency_invariant b).2 _ hb⟩

end Builder
end CommentDocs
