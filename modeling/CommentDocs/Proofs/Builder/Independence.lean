import CommentDocs.Format
import CommentDocs.Proofs.Builder.History

/-!
# CommentDocs.Proofs.Builder.Independence

Blocks of remarks that declare different entities can be applied in either order. A block starts
with a declaration, so it reads nothing of the focus it finds, and what it changes are the entities
it declares. Neither is said anywhere in the builder, which moves one focus over one map.

Everything is read off one key at a time. What a builder has of an entity is what is stored under
the key and, while that entity is in focus, the member in focus (`Builder.memberAt`).

* `AgreeAt.applyAll`: what remarks make of an entity depends on nothing else.
* `AgreeAt.of_block`: what a block makes of it depends on what is stored alone.
* `get?_block`: a block that does not declare a key leaves what is stored under it as it is.
-/

namespace CommentDocs

def Entity.changeMember (e : Entity) (refuse : Method → Option Event) (change : Method → Method)
    (n : Member) : Entity :=
  match e.member? n with
  | none => e
  | some m => if (refuse m).isSome then e else e.modifyMember change n

namespace Builder

/-- The member in focus, if any, while the entity with this key is in focus. -/
def memberAt (b : Builder) (key : EntityKey) : Option (Option Member) :=
  (b.focus.filter fun f => f.entity = key).map Focus.member

/-! ## The handlers, seen from one key -/

section Handlers

variable {b : Builder} {key : EntityKey} {a : Remark}

theorem memberAt_of_none (hf : b.focus = none) : b.memberAt key = none := by
  rw [memberAt, hf]; rfl

theorem memberAt_of_focus {f : Focus} (hf : b.focus = some f) :
    b.memberAt key = if f.entity = key then some f.member else none := by
  rw [memberAt, hf]
  by_cases hk : f.entity = key
  · simp [hk]
  · simp [hk]

theorem memberAt_declare (k : EntityKey) (description : Text) :
    (b.declare k description).1.memberAt key = if k = key then some none else none :=
  memberAt_of_focus (focus_declare b k description)

variable {change : Entity → Entity} {member : Option Member → Option Member}

theorem get?_inEntity :
    (b.inEntity a change member).1.result.get? key =
      if b.memberAt key = none then b.result.get? key else (b.result.get? key).map change := by
  cases hf : b.focus with
  | none => rw [inEntity_of_none hf, memberAt_of_none hf, if_pos rfl]
  | some f =>
    rw [memberAt_of_focus hf]
    cases he : b.result.get? f.entity with
    | none =>
      rw [inEntity_of_absent hf he]
      by_cases hk : f.entity = key
      · subst hk; simp [he]
      · simp [hk]
    | some e =>
      rw [inEntity_of_focus hf he, Namespace.get?_modify]
      by_cases hk : f.entity = key
      · simp [hk]
      · simp [hk]

theorem memberAt_inEntity :
    (b.inEntity a change member).1.memberAt key =
      if b.result.get? key = none then b.memberAt key else (b.memberAt key).map member := by
  cases hf : b.focus with
  | none => rw [inEntity_of_none hf, memberAt_of_none hf]; simp
  | some f =>
    cases he : b.result.get? f.entity with
    | none =>
      rw [inEntity_of_absent hf he, memberAt_of_focus hf]
      by_cases hk : f.entity = key
      · subst hk; simp [he]
      · simp [hk]
    | some e =>
      rw [inEntity_of_focus hf he, memberAt_of_focus rfl, memberAt_of_focus hf]
      by_cases hk : f.entity = key
      · subst hk; simp [he]
      · simp [hk]

variable {refuse : Method → Option Event} {change : Method → Method}

theorem get?_inMember :
    (b.inMember a refuse change).1.result.get? key =
      match b.memberAt key with
      | some (some n) => (b.result.get? key).map (·.changeMember refuse change n)
      | _ => b.result.get? key := by
  match hf : b.focus with
  | none => rw [inMember_of_none (by rw [hf]; rfl), memberAt_of_none hf]
  | some ⟨k, none⟩ =>
    rw [inMember_of_none (by rw [hf]; rfl), memberAt_of_focus hf]
    by_cases hk : k = key
    · simp [hk]
    · simp [hk]
  | some ⟨k, some n⟩ =>
    rw [memberAt_of_focus hf]
    cases hm : (b.result.get? k).bind (·.member? n) with
    | none =>
      rw [inMember_of_absent hf hm]
      by_cases hk : k = key
      · subst hk
        cases he : b.result.get? k with
        | none => simp
        | some e =>
          rw [he] at hm
          have hm : e.member? n = none := hm
          simp [Entity.changeMember, hm]
      · simp [hk]
    | some m =>
      obtain ⟨e, he, hm⟩ := Option.bind_eq_some_iff.1 hm
      rw [inMember_of_focus hf he hm]
      cases hr : refuse m with
      | some event =>
        by_cases hk : k = key
        · subst hk; simp [he, Entity.changeMember, hm, hr]
        · simp [hk]
      | none =>
        simp only [Namespace.get?_modify]
        by_cases hk : k = key
        · subst hk; simp [he, Entity.changeMember, hm, hr]
        · simp [hk]

theorem memberAt_inMember : (b.inMember a refuse change).1.memberAt key = b.memberAt key := by
  have hf : (b.inMember a refuse change).1.focus = b.focus := by
    rw [inMember]
    split
    · rfl
    · split <;> rfl
  rw [memberAt, hf, memberAt]

end Handlers

/-! ## What remarks make of one entity -/

/-- Two builders have the same of the entity with a key. -/
structure AgreeAt (key : EntityKey) (b c : Builder) : Prop where
  get?_eq : b.result.get? key = c.result.get? key
  memberAt_eq : b.memberAt key = c.memberAt key

namespace AgreeAt

variable {key : EntityKey} {b c : Builder}

theorem declare (h : b.result.get? key = c.result.get? key) (k : EntityKey) (description : Text) :
    AgreeAt key (b.declare k description).1 (c.declare k description).1 where
  get?_eq := by rw [get?_declare, get?_declare, h]
  memberAt_eq := by rw [memberAt_declare, memberAt_declare]

theorem inEntity (h : AgreeAt key b c) (a : Remark) (change : Entity → Entity)
    (member : Option Member → Option Member) :
    AgreeAt key (b.inEntity a change member).1 (c.inEntity a change member).1 where
  get?_eq := by rw [get?_inEntity, get?_inEntity, h.get?_eq, h.memberAt_eq]
  memberAt_eq := by rw [memberAt_inEntity, memberAt_inEntity, h.get?_eq, h.memberAt_eq]

theorem inMember (h : AgreeAt key b c) (a : Remark) (refuse : Method → Option Event)
    (change : Method → Method) :
    AgreeAt key (b.inMember a refuse change).1 (c.inMember a refuse change).1 where
  get?_eq := by rw [get?_inMember, get?_inMember, h.get?_eq, h.memberAt_eq]
  memberAt_eq := by rw [memberAt_inMember, memberAt_inMember, h.memberAt_eq]

theorem apply (h : AgreeAt key b c) (a : Remark) : AgreeAt key (b.apply a).1 (c.apply a).1 := by
  by_cases ht : ∃ tag : Tag, a.tag = tag.text
  · obtain ⟨tag, ht⟩ := ht
    rw [apply_of_tag ht, apply_of_tag ht]
    cases tag with
    | entity kind => exact declare h.get?_eq ⟨kind, a.label⟩ a.text
    | method => exact h.inEntity a _ _
    | constructor => exact h.inEntity a _ _
    | supertype => exact h.inEntity a _ _
    | param => exact h.inMember a _ _
    | returns => exact h.inMember a _ _
  · have hu : ∀ tag : Tag, a.tag ≠ tag.text := fun tag hn => ht ⟨tag, hn⟩
    rw [apply_of_unknown hu, apply_of_unknown hu]
    exact h

theorem applyAll (h : AgreeAt key b c) (as : List Remark) :
    AgreeAt key (b.applyAll as).1 (c.applyAll as).1 := by
  induction as generalizing b c with
  | nil => exact h
  | cons a as ih => exact ih (h.apply a)

end AgreeAt

/-! ## Blocks -/

/-- The frame of a remark: an entity that is not in focus and that it does not declare. -/
theorem apply_frame {b : Builder} {a : Remark} {key : EntityKey} (hf : b.memberAt key = none)
    (ha : History.declared? a ≠ some key) :
    (b.apply a).1.memberAt key = none ∧ (b.apply a).1.result.get? key = b.result.get? key := by
  by_cases ht : ∃ tag : Tag, a.tag = tag.text
  · obtain ⟨tag, ht⟩ := ht
    rw [apply_of_tag ht]
    have hentity : ∀ (change : Entity → Entity) (member : Option Member → Option Member),
        (b.inEntity a change member).1.memberAt key = none ∧
          (b.inEntity a change member).1.result.get? key = b.result.get? key := by
      intro change member
      rw [memberAt_inEntity, get?_inEntity, hf]
      simp
    have hmember : ∀ (refuse : Method → Option Event) (change : Method → Method),
        (b.inMember a refuse change).1.memberAt key = none ∧
          (b.inMember a refuse change).1.result.get? key = b.result.get? key := by
      intro refuse change
      rw [memberAt_inMember, get?_inMember, hf]
      exact ⟨rfl, rfl⟩
    cases tag with
    | entity kind =>
      have hk : (⟨kind, a.label⟩ : EntityKey) ≠ key := by
        rintro rfl
        exact ha (History.declared?_of_tag ht)
      rw [applyTag, memberAt_declare, get?_declare, if_neg hk, if_neg hk]
      exact ⟨rfl, rfl⟩
    | method => exact hentity _ _
    | constructor => exact hentity _ _
    | supertype => exact hentity _ _
    | param => exact hmember _ _
    | returns => exact hmember _ _
  · rw [apply_of_unknown fun tag hn => ht ⟨tag, hn⟩]
    exact ⟨hf, rfl⟩

theorem applyAll_frame {b : Builder} {as : List Remark} {key : EntityKey}
    (hf : b.memberAt key = none) (ha : key ∉ as.filterMap History.declared?) :
    (b.applyAll as).1.result.get? key = b.result.get? key := by
  induction as generalizing b with
  | nil => rfl
  | cons a as ih =>
    have hhead : History.declared? a ≠ some key :=
      fun hd => ha (List.mem_filterMap.2 ⟨a, List.mem_cons_self, hd⟩)
    have hrest : key ∉ as.filterMap History.declared? := by
      intro hk
      obtain ⟨c, hc, hd⟩ := List.mem_filterMap.1 hk
      exact ha (List.mem_filterMap.2 ⟨c, List.mem_cons_of_mem a hc, hd⟩)
    obtain ⟨hf', hget⟩ := apply_frame hf hhead
    exact (ih hf' hrest).trans hget

end Builder

namespace History

/-- A block of remarks starts with a declaration. -/
def IsBlock : List Remark → Prop
  | [] => False
  | a :: _ => (declared? a).isSome

instance : DecidablePred IsBlock
  | [] => isFalse id
  | a :: _ => inferInstanceAs (Decidable ((declared? a).isSome = true))

/-- No entity is declared in both lists. -/
def Independent (as bs : List Remark) : Prop :=
  ∀ key ∈ as.filterMap declared?, key ∉ bs.filterMap declared?

instance (as bs : List Remark) : Decidable (Independent as bs) :=
  inferInstanceAs (Decidable (∀ key ∈ as.filterMap declared?, key ∉ bs.filterMap declared?))

theorem IsBlock.exists_cons {as : List Remark} (h : IsBlock as) :
    ∃ a rest key, as = a :: rest ∧ declared? a = some key := by
  cases as with
  | nil => exact h.elim
  | cons a rest =>
    obtain ⟨key, hkey⟩ := Option.isSome_iff_exists.1 h
    exact ⟨a, rest, key, rfl, hkey⟩

end History

namespace Builder

open History

variable {b c : Builder} {as bs : List Remark} {key : EntityKey}

theorem apply_of_declared {a : Remark} {k : EntityKey} (h : declared? a = some k) :
    b.apply a = b.declare k a.text := by
  obtain ⟨ht, hl⟩ := declared?_eq_some.1 h
  rw [apply_of_tag ht, applyTag, hl]

theorem AgreeAt.of_block (ha : IsBlock as) (h : b.result.get? key = c.result.get? key) :
    AgreeAt key (b.applyAll as).1 (c.applyAll as).1 := by
  obtain ⟨a, rest, k, rfl, hk⟩ := ha.exists_cons
  have hstart : AgreeAt key (b.apply a).1 (c.apply a).1 := by
    rw [apply_of_declared hk, apply_of_declared hk]
    exact AgreeAt.declare h k a.text
  exact hstart.applyAll rest

/-- The frame of a block, whatever is in focus before it. -/
theorem get?_block (ha : IsBlock as) (hkey : key ∉ as.filterMap declared?) :
    (b.applyAll as).1.result.get? key = b.result.get? key := by
  obtain ⟨a, rest, k, rfl, hk⟩ := ha.exists_cons
  rw [List.filterMap_cons_some hk, List.mem_cons, not_or] at hkey
  obtain ⟨hne, hrest⟩ := hkey
  have hf : (b.apply a).1.memberAt key = none := by
    rw [apply_of_declared hk, memberAt_declare, if_neg (Ne.symm hne)]
  have hget : (b.apply a).1.result.get? key = b.result.get? key := by
    rw [apply_of_declared hk, get?_declare, if_neg (Ne.symm hne)]
  exact (applyAll_frame hf hrest).trans hget

/-- Of a key that `bs` does not declare, both orders leave what `as` alone leaves. -/
theorem get?_blocks (ha : IsBlock as) (hb : IsBlock bs) (hkey : key ∉ bs.filterMap declared?) :
    ((b.applyAll as).1.applyAll bs).1.result.get? key =
      ((b.applyAll bs).1.applyAll as).1.result.get? key := by
  have hlast : ((b.applyAll as).1.applyAll bs).1.result.get? key =
      (b.applyAll as).1.result.get? key := get?_block hb hkey
  have hfirst : AgreeAt key ((b.applyAll bs).1.applyAll as).1 (b.applyAll as).1 :=
    AgreeAt.of_block ha (get?_block hb hkey)
  rw [hlast, hfirst.get?_eq]

/-- Two blocks that declare no common entity can be applied in either order: the contents are the
same, and so is every document made of them. The focus is what the later block leaves. -/
theorem applyAll_comm (b : Builder) {as bs : List Remark} (ha : IsBlock as) (hb : IsBlock bs)
    (h : Independent as bs) :
    ((b.applyAll as).1.applyAll bs).1.result = ((b.applyAll bs).1.applyAll as).1.result ∧
      ∀ format : Format,
        format.render ((b.applyAll as).1.applyAll bs).1.result =
            format.render ((b.applyAll bs).1.applyAll as).1.result ∧
          format.renderIndex ((b.applyAll as).1.applyAll bs).1.result =
            format.renderIndex ((b.applyAll bs).1.applyAll as).1.result := by
  have hcontents : ((b.applyAll as).1.applyAll bs).1.result =
      ((b.applyAll bs).1.applyAll as).1.result := by
    refine Namespace.ext fun key => ?_
    by_cases hkey : key ∈ as.filterMap declared?
    · exact get?_blocks ha hb (h key hkey)
    · exact (get?_blocks hb ha hkey).symm
  refine ⟨hcontents, ?_⟩
  intro format
  rw [hcontents]
  exact ⟨rfl, rfl⟩

/-- Both blocks reopen an entity that is there already, the parameter in the second belongs to no
method, and the focus that is left does depend on the order. -/
theorem applyAll_comm_reopened :
    let b := (Builder.empty.applyAll
      [⟨"mixin", "Bar", []⟩, ⟨"class", "Foo", []⟩, ⟨"method", "run", []⟩]).1
    let as : List Remark :=
      [⟨"class", "Foo", "again"⟩, ⟨"method", "run", "later"⟩, ⟨"param", "n", []⟩]
    let bs : List Remark := [⟨"mixin", "Bar", "again"⟩, ⟨"param", "lost", []⟩]
    IsBlock as ∧ IsBlock bs ∧ Independent as bs ∧
      ((b.applyAll as).1.applyAll bs).1.focus ≠ ((b.applyAll bs).1.applyAll as).1.focus ∧
      ((b.applyAll as).1.applyAll bs).1.result = ((b.applyAll bs).1.applyAll as).1.result := by
  intro b as bs
  have ha : IsBlock as := by decide
  have hb : IsBlock bs := by decide
  have h : Independent as bs := by decide
  exact ⟨ha, hb, h, by decide, (applyAll_comm b ha hb h).1⟩

end Builder
end CommentDocs
