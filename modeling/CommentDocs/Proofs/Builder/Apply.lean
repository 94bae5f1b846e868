import CommentDocs.Builder

/-!
# CommentDocs.Proofs.Builder.Apply

What applying one remark does to a builder. `applyTag` has one branch for each tag that a builder
knows (`apply_of_tag`), and all other remarks change nothing (`apply_of_unknown`). The other
statements are the three handlers behind these branches, seen through what is stored under each key
and what is in focus, so that no later proof opens them.
-/

namespace CommentDocs

namespace Tag

def text : Tag → Text
  | .entity kind => kind.tag
  | .method => "method"
  | .constructor => "constructor"
  | .supertype => "extends"
  | .param => "param"
  | .returns => "return"

theorem ofText?_text (tag : Tag) : ofText? tag.text = some tag := by
  cases tag with
  | entity kind => cases kind <;> decide
  | method => decide
  | constructor => decide
  | supertype => decide
  | param => decide
  | returns => decide

theorem ofText?_eq_some {t : Text} {tag : Tag} : ofText? t = some tag ↔ t = tag.text := by
  constructor
  · intro h
    simp only [ofText?] at h
    split at h
    · rename_i kind hk; cases h
      exact Kind.ofTag?_eq_some.1 hk
    · repeat' split at h
      all_goals cases h
      all_goals assumption
  · rintro rfl
    exact ofText?_text tag

theorem text_injective {s t : Tag} (h : s.text = t.text) : s = t := by
  have := ofText?_text s
  rw [h, ofText?_text t] at this
  exact (Option.some.inj this).symm

theorem text_ne_nil (tag : Tag) : tag.text ≠ [] := by
  cases tag with
  | entity kind => cases kind <;> decide
  | method => decide
  | constructor => decide
  | supertype => decide
  | param => decide
  | returns => decide

end Tag

namespace Builder

theorem focus_eq_none {b : Builder} : b.focus = none ↔ b.entityFocus = none :=
  Option.map_eq_none_iff

theorem focus_eq_some {b : Builder} {f : Focus} :
    b.focus = some f ↔ b.entityFocus = some f.entity ∧ b.memberFocus = f.member := by
  rw [focus, Option.map_eq_some_iff]
  constructor
  · rintro ⟨key, hkey, rfl⟩
    exact ⟨hkey, rfl⟩
  · rintro ⟨hkey, hmember⟩
    exact ⟨f.entity, hkey, by rw [hmember]⟩

def applyTag (b : Builder) (a : Remark) : Tag → Builder × List Event
  | .entity kind => b.declare ⟨kind, a.label⟩ a.text
  | .method => b.inEntity a (·.describeMethod a.label a.text) fun _ => some (.method a.label)
  | .constructor =>
    b.inEntity a (·.replaceConstructor (a.label ++ a.text)) fun _ => some .constructor
  | .supertype => b.inEntity a (·.addSupertype a.label) id
  | .param => b.inMember a (fun _ => none) (·.addParam ⟨a.label, a.text⟩)
  | .returns =>
    b.inMember a (fun m => if m.isConstructor then some (.constructorReturn a.label) else none)
      (·.setReturn ⟨a.label, a.text⟩)

theorem apply_of_tag {b : Builder} {a : Remark} {tag : Tag} (h : a.tag = tag.text) :
    b.apply a = b.applyTag a tag := by
  have hp : a.isPreamble = false := by
    rw [Remark.isPreamble, h, List.isEmpty_eq_false_iff]
    exact tag.text_ne_nil
  rw [apply, hp, h, Tag.ofText?_text]
  cases tag <;> rfl

/-- A remark with any other tag, or with none, changes nothing. -/
theorem apply_of_unknown {b : Builder} {a : Remark} (h : ∀ tag : Tag, a.tag ≠ tag.text) :
    (b.apply a).1 = b := by
  have hn : Tag.ofText? a.tag = none := by
    cases ht : Tag.ofText? a.tag with
    | none => rfl
    | some tag => exact absurd (Tag.ofText?_eq_some.1 ht) (h tag)
  rw [apply, hn]
  split <;> rfl

/-! ## The handlers -/

theorem get?_declare (b : Builder) (key k : EntityKey) (description : Text) :
    (b.declare key description).1.result.get? k =
      if key = k then
        some { (b.result.get? k).getD (Entity.ofKey key) with label := key.name, description }
      else b.result.get? k := by
  rw [declare, Namespace.get?_modify, Namespace.get?_ensure]
  by_cases hk : key = k
  · simp [hk]
  · simp [hk]

theorem focus_declare (b : Builder) (key : EntityKey) (description : Text) :
    (b.declare key description).1.focus = some ⟨key, none⟩ := rfl

theorem inEntity_of_none {b : Builder} {a : Remark} {change : Entity → Entity}
    {member : Option Member → Option Member} (hf : b.focus = none) :
    b.inEntity a change member = (b, [.outsideEntity a.tag a.label]) := by
  simp [inEntity, focused?, focus_eq_none.1 hf]

theorem inEntity_of_focus {b : Builder} {a : Remark} {change : Entity → Entity}
    {member : Option Member → Option Member} {f : Focus} {e : Entity} (hf : b.focus = some f)
    (he : b.result.get? f.entity = some e) :
    b.inEntity a change member =
      (⟨b.result.modify f.entity change, some f.entity, member f.member⟩, []) := by
  obtain ⟨hentity, hmember⟩ := focus_eq_some.1 hf
  simp [inEntity, focused?, hentity, hmember, he]

theorem inEntity_of_absent {b : Builder} {a : Remark} {change : Entity → Entity}
    {member : Option Member → Option Member} {f : Focus} (hf : b.focus = some f)
    (he : b.result.get? f.entity = none) :
    b.inEntity a change member = (b, [.outsideEntity a.tag a.label]) := by
  simp [inEntity, focused?, (focus_eq_some.1 hf).1, he]

theorem inMember_of_none {b : Builder} {a : Remark} {refuse : Method → Option Event}
    {change : Method → Method} (hf : b.focus.bind Focus.member = none) :
    b.inMember a refuse change = (b, [.outsideMethod a.tag a.label]) := by
  have hm : b.focusedMember? = none := by
    rw [focusedMember?]
    split
    · rename_i hentity hmember
      rw [focus, hentity] at hf
      cases hmember.symm.trans hf
    · rfl
  rw [inMember, hm]

theorem inMember_of_focus {b : Builder} {a : Remark} {refuse : Method → Option Event}
    {change : Method → Method} {key : EntityKey} {n : Member} {e : Entity} {m : Method}
    (hf : b.focus = some ⟨key, some n⟩) (he : b.result.get? key = some e)
    (hm : e.member? n = some m) :
    b.inMember a refuse change =
      match refuse m with
      | some event => (b, [event])
      | none => ({ b with result := b.result.modify key (·.modifyMember change n) }, []) := by
  obtain ⟨hentity, hmember⟩ := focus_eq_some.1 hf
  have hb : b.focusedMember? = some (key, n, m) := by
    simp [focusedMember?, hentity, hmember, he, hm]
  rewrite [inMember, hb]
  rfl

theorem inMember_of_absent {b : Builder} {a : Remark} {refuse : Method → Option Event}
    {change : Method → Method} {key : EntityKey} {n : Member}
    (hf : b.focus = some ⟨key, some n⟩)
    (hm : (b.result.get? key).bind (·.member? n) = none) :
    b.inMember a refuse change = (b, [.outsideMethod a.tag a.label]) := by
  obtain ⟨hentity, hmember⟩ := focus_eq_some.1 hf
  have hb : b.focusedMember? = none := by simp [focusedMember?, hentity, hmember, hm]
  rw [inMember, hb]

end Builder
end CommentDocs
