import CommentDocs.Proofs.Builder.Independence
import CommentDocs.Proofs.Comment.Labels

/-!
# CommentDocs.Proofs.Builder.NormalForm

The form of all text that is stored. Names, types and other labels are single words without comment
markers, and descriptions are trimmed lines (`Namespace.WellFormed`). A well-formed remark keeps a
namespace so, wherever the remark goes (`Builder.wellFormed_apply`), and all remarks of a source
text are well-formed, so this holds of whatever has been read (`Builder.stored_wellFormed`).
-/

namespace CommentDocs

structure Param.WellFormed (p : Param) : Prop where
  label : IsLabel p.label
  description : p.description.IsDescription

/-- The form of a method or constructor. -/
structure Method.WellFormed (m : Method) : Prop where
  name : IsLabel m.name
  description : m.description.IsDescription
  params : ∀ p ∈ m.params, p.WellFormed
  returns : ∀ p ∈ m.returns, p.WellFormed
  owner : IsLabel m.owner.name

/-- The form of an entity with its members. -/
structure Entity.WellFormed (e : Entity) : Prop where
  name : IsLabel e.name
  label : IsLabel e.label
  description : e.description.IsDescription
  supertypes : ∀ t ∈ e.supertypes, IsLabel t
  members : ∀ n m, e.member? n = some m → m.WellFormed

/-- The form of everything in a namespace. -/
def Namespace.WellFormed (ns : Namespace) : Prop := ∀ key e, ns.get? key = some e → e.WellFormed

/-! ## Members -/

namespace Method.WellFormed

variable {m : Method} {p : Param}

theorem redescribe (h : m.WellFormed) {description : Text} (hd : description.IsDescription) :
    { m with description }.WellFormed :=
  ⟨h.name, hd, h.params, h.returns, h.owner⟩

theorem addParam (h : m.WellFormed) (hp : p.WellFormed) : (m.addParam p).WellFormed := by
  refine ⟨h.name, h.description, fun q hq => ?_, h.returns, h.owner⟩
  rcases List.mem_append.1 hq with hq | hq
  · exact h.params q hq
  · rw [List.mem_singleton.1 hq]
    exact hp

theorem setReturn (h : m.WellFormed) (hp : p.WellFormed) : (m.setReturn p).WellFormed := by
  refine ⟨h.name, h.description, h.params, ?_, h.owner⟩
  rintro _ ⟨⟩
  exact hp

end Method.WellFormed

theorem Method.wellFormed_new {owner : EntityKey} {name description : Text} {isConstructor : Bool}
    (howner : IsLabel owner.name) (hname : IsLabel name) (hd : description.IsDescription) :
    Method.WellFormed ⟨name, description, [], none, owner, isConstructor⟩ :=
  ⟨hname, hd, by simp, by simp, howner⟩

/-! ## Entities -/

namespace Entity

variable {e : Entity} {name description : Text}

theorem wellFormed_ofKey {key : EntityKey} (h : IsLabel key.name) : (ofKey key).WellFormed where
  name := h
  label := h
  description := Text.isDescription_nil
  supertypes := by simp [ofKey]
  members n m hm := by cases n <;> simp [ofKey, member?] at hm

namespace WellFormed

theorem redescribe (h : e.WellFormed) (hname : IsLabel name) (hd : description.IsDescription) :
    { e with label := name, description }.WellFormed :=
  ⟨h.name, hname, hd, h.supertypes, fun n m hm => h.members n m hm⟩

theorem describeMethod (h : e.WellFormed) (hname : IsLabel name)
    (hd : description.IsDescription) : (e.describeMethod name description).WellFormed := by
  refine ⟨h.name, h.label, h.description, h.supertypes, fun n m hm => ?_⟩
  rw [member?_describeMethod] at hm
  split at hm
  · cases hm
    cases hold : e.methods[name]? with
    | none => exact Method.wellFormed_new h.name hname hd
    | some old => exact (h.members (.method name) old hold).redescribe hd
  · exact h.members n m hm

theorem replaceConstructor (h : e.WellFormed) (hd : description.IsDescription) :
    (e.replaceConstructor description).WellFormed := by
  refine ⟨h.name, h.label, h.description, h.supertypes, fun n m hm => ?_⟩
  cases n with
  | method name => exact h.members (.method name) m hm
  | constructor =>
    cases hm
    exact Method.wellFormed_new h.name isLabel_nil hd

theorem addSupertype (h : e.WellFormed) (hname : IsLabel name) :
    (e.addSupertype name).WellFormed := by
  refine ⟨h.name, h.label, h.description, fun t ht => ?_, fun n m hm => ?_⟩
  · rcases List.mem_append.1 ht with ht | ht
    · exact h.supertypes t ht
    · rw [List.mem_singleton.1 ht]
      exact hname
  · cases n with
    | method other => exact h.members (.method other) m hm
    | constructor => exact h.members .constructor m hm

theorem modifyMember (h : e.WellFormed) {f : Method → Method}
    (hf : ∀ m, m.WellFormed → (f m).WellFormed) (n : Member) :
    (e.modifyMember f n).WellFormed := by
  have hmembers : ∀ k m, (e.modifyMember f n).member? k = some m → m.WellFormed := by
    intro k m hm
    rw [member?_modifyMember] at hm
    split at hm
    · obtain ⟨old, hold, rfl⟩ := Option.map_eq_some_iff.1 hm
      exact hf old (h.members k old hold)
    · exact h.members k m hm
  cases n <;> exact ⟨h.name, h.label, h.description, h.supertypes, hmembers⟩

theorem changeMember (h : e.WellFormed) (refuse : Method → Option Event) {f : Method → Method}
    (hf : ∀ m, m.WellFormed → (f m).WellFormed) (n : Member) :
    (e.changeMember refuse f n).WellFormed := by
  rw [Entity.changeMember]
  split
  · exact h
  · split
    · exact h
    · exact h.modifyMember hf n

end WellFormed
end Entity

/-! ## Builders -/

namespace Builder

variable {b : Builder} {a : Remark}

theorem wellFormed_declare {key : EntityKey} {description : Text} (h : b.result.WellFormed)
    (hkey : IsLabel key.name) (hd : description.IsDescription) :
    (b.declare key description).1.result.WellFormed := by
  intro k e he
  rw [get?_declare] at he
  split at he
  · cases he
    refine Entity.WellFormed.redescribe ?_ hkey hd
    cases hold : b.result.get? k with
    | none => exact Entity.wellFormed_ofKey hkey
    | some old => exact h k old hold
  · exact h k e he

theorem wellFormed_inEntity {change : Entity → Entity} {member : Option Member → Option Member}
    (h : b.result.WellFormed) (hchange : ∀ e, e.WellFormed → (change e).WellFormed) :
    (b.inEntity a change member).1.result.WellFormed := by
  intro key e he
  rw [get?_inEntity] at he
  split at he
  · exact h key e he
  · obtain ⟨old, hold, rfl⟩ := Option.map_eq_some_iff.1 he
    exact hchange old (h key old hold)

theorem wellFormed_inMember {refuse : Method → Option Event} {change : Method → Method}
    (h : b.result.WellFormed) (hchange : ∀ m, m.WellFormed → (change m).WellFormed) :
    (b.inMember a refuse change).1.result.WellFormed := by
  intro key e he
  rw [get?_inMember] at he
  split at he
  · rename_i n _
    obtain ⟨old, hold, rfl⟩ := Option.map_eq_some_iff.1 he
    exact (h key old hold).changeMember refuse hchange n
  · exact h key e he

theorem wellFormed_apply (h : b.result.WellFormed) (ha : a.WellFormed) :
    (b.apply a).1.result.WellFormed := by
  by_cases ht : ∃ tag : Tag, a.tag = tag.text
  · obtain ⟨tag, ht⟩ := ht
    have hparam : Param.WellFormed ⟨a.label, a.text⟩ := ⟨ha.label, ha.text⟩
    rw [apply_of_tag ht]
    cases tag with
    | entity kind => exact wellFormed_declare h ha.label ha.text
    | method => exact wellFormed_inEntity h fun e he => he.describeMethod ha.label ha.text
    | constructor => exact wellFormed_inEntity h fun e he => he.replaceConstructor ha.joined
    | supertype => exact wellFormed_inEntity h fun e he => he.addSupertype ha.label
    | param => exact wellFormed_inMember h fun m hm => hm.addParam hparam
    | returns => exact wellFormed_inMember h fun m hm => hm.setReturn hparam
  · rw [apply_of_unknown fun tag hn => ht ⟨tag, hn⟩]
    exact h

theorem wellFormed_applyAll {as : List Remark} (h : b.result.WellFormed)
    (has : ∀ a ∈ as, a.WellFormed) : (b.applyAll as).1.result.WellFormed := by
  induction as generalizing b with
  | nil => exact h
  | cons a as ih =>
    obtain ⟨ha, has⟩ := List.forall_mem_cons.1 has
    exact ih (wellFormed_apply h ha) has

theorem wellFormed_read (h : b.result.WellFormed) (source : Text) :
    (b.read source).1.result.WellFormed :=
  wellFormed_applyAll h fun _ ha => Remark.wellFormed_of_mem_ofSource ha

theorem wellFormed_readAll (h : b.result.WellFormed) (sources : List Text) :
    (b.readAll sources).1.result.WellFormed := by
  induction sources generalizing b with
  | nil => exact h
  | cons source sources ih => exact ih (wellFormed_read h source)

theorem wellFormed_empty : empty.result.WellFormed := by
  intro key e he
  rw [empty, Namespace.get?_empty] at he
  cases he

/-- Whatever source texts have been read, everything stored is well-formed. So a description that
has line ends ends with one, and none has a blank line. -/
theorem stored_wellFormed (sources : List Text) :
    (empty.readAll sources).1.result.WellFormed ∧
      ∀ t : Text, t.IsDescription →
        ('\n' ∈ t → t.getLast? = some '\n') ∧ ∀ l ∈ t.lines, l.IsTrimmed := by
  refine ⟨wellFormed_readAll wellFormed_empty sources, fun t ht => ?_⟩
  exact ⟨ht.getLast?_eq, ht.isTrimmed_of_mem_lines⟩

end Builder
end CommentDocs
