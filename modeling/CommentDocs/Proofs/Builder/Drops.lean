import CommentDocs.Log.Line
import CommentDocs.Proofs.Builder.Documented
import Mathlib.Data.List.Forall2

/-!
# CommentDocs.Proofs.Builder.Drops

Which remarks a builder leaves out. A handler finds out by looking for the entity and the member in
focus; `History.Dropped` tells it from the tags of the remarks before, without any builder.

* `hasOpenMember_iff`, `endsInConstructor_iff`: what the tags say of the focus.
* `Follows.apply_of_reported`: a remark that is dropped changes nothing, and one event reports it.
* `Follows.takesEffect`: any other remark does what it is for, and no event reports it as dropped.
* `drops_accounted`: so the events of a run report the remarks that are dropped, one by one and in
  order.
-/

namespace CommentDocs

namespace History

/-! ## The rules -/

def knownTags : List Text :=
  ["class", "mixin", "method", "constructor", "extends", "param", "return"]

/-- A remark has opened a member, for which an entity had been declared before, and none has been
declared since. -/
def HasOpenMember (before : List Remark) : Prop :=
  ∃ (earlier : List Remark) (a : Remark) (later : List Remark), before = earlier ++ a :: later ∧
    (a.tag = "method" ∨ a.tag = "constructor") ∧ scope earlier ≠ none ∧
    ∀ c ∈ later, declared? c = none

/-- Of the remarks that declare an entity or open a member, the last is one for a constructor. -/
def EndsInConstructor (before : List Remark) : Prop :=
  ∃ o ∈ opener before, o.1.tag = "constructor"

/-- A remark with this tag behind those before it does not belong anywhere. -/
def Dropped (before : List Remark) (a : Remark) : Prop :=
  a.tag ∉ knownTags ∨
    (a.tag = "method" ∨ a.tag = "constructor" ∨ a.tag = "extends") ∧ scope before = none ∨
    (a.tag = "param" ∨ a.tag = "return") ∧ ¬HasOpenMember before ∨
    a.tag = "return" ∧ EndsInConstructor before

/-- The event that reports a remark as dropped. -/
inductive Reported (before : List Remark) (a : Remark) : Event → Prop where
  | unknownTag : a.tag ∉ knownTags → Reported before a (.unknownTag a.tag a.label)
  | outsideEntity : a.tag = "method" ∨ a.tag = "constructor" ∨ a.tag = "extends" →
      scope before = none → Reported before a (.outsideEntity a.tag a.label)
  | outsideMethod : a.tag = "param" ∨ a.tag = "return" → ¬HasOpenMember before →
      Reported before a (.outsideMethod a.tag a.label)
  | constructorReturn : a.tag = "return" → HasOpenMember before → EndsInConstructor before →
      Reported before a (.constructorReturn a.label)

theorem dropped_iff {before : List Remark} {a : Remark} :
    Dropped before a ↔ ∃ e, Reported before a e := by
  constructor
  · rintro (h | ⟨ht, h⟩ | ⟨ht, h⟩ | ⟨ht, h⟩)
    · exact ⟨_, .unknownTag h⟩
    · exact ⟨_, .outsideEntity ht h⟩
    · exact ⟨_, .outsideMethod ht h⟩
    · -- A constructor outside of any entity opens nothing, and this is what is reported then.
      by_cases ho : HasOpenMember before
      · exact ⟨_, .constructorReturn ht ho h⟩
      · exact ⟨_, .outsideMethod (.inr ht) ho⟩
  · rintro ⟨_, h | ⟨ht, h⟩ | ⟨ht, h⟩ | ⟨ht, _, h⟩⟩
    · exact .inl h
    · exact .inr (.inl ⟨ht, h⟩)
    · exact .inr (.inr (.inl ⟨ht, h⟩))
    · exact .inr (.inr (.inr ⟨ht, h⟩))

theorem mem_knownTags {t : Text} : t ∈ knownTags ↔ ∃ tag : Tag, t = tag.text := by
  constructor
  · intro h
    simp only [knownTags, List.mem_cons, List.not_mem_nil, or_false] at h
    rcases h with rfl | rfl | rfl | rfl | rfl | rfl | rfl
    · exact ⟨.entity .cls, rfl⟩
    · exact ⟨.entity .mixin, rfl⟩
    · exact ⟨.method, rfl⟩
    · exact ⟨.constructor, rfl⟩
    · exact ⟨.supertype, rfl⟩
    · exact ⟨.param, rfl⟩
    · exact ⟨.returns, rfl⟩
  · rintro ⟨tag, rfl⟩
    cases tag with
    | entity kind => cases kind <;> decide
    | _ => decide

/-! ## What the tags say of the focus -/

theorem opened?_isSome {a : Remark} :
    (opened? a).isSome ↔ a.tag = "method" ∨ a.tag = "constructor" := by
  rw [opened?]
  split
  · rename_i h
    exact ⟨fun _ => .inl h, fun _ => rfl⟩
  · rename_i hm
    split
    · rename_i h
      exact ⟨fun _ => .inr h, fun _ => rfl⟩
    · rename_i hc
      constructor
      · intro h
        cases h
      · rintro (h | h)
        · exact absurd h hm
        · exact absurd h hc

theorem opened?_eq_constructor {a : Remark} :
    opened? a = some .constructor ↔ a.tag = "constructor" := by
  constructor
  · intro h
    exact (tag_of_opened? h).2
  · intro h
    have ht : a.tag = Tag.constructor.text := h
    exact opened?_of_tag ht

theorem openMember_snoc (as : List Remark) (a : Remark) :
    openMember (as ++ [a]) = if opens a then opened? a else openMember as := by
  rw [openMember, opener_snoc]
  split
  · rfl
  · rfl

theorem hasOpenMember_snoc {as : List Remark} {a : Remark} :
    HasOpenMember (as ++ [a]) ↔
      (opened? a).isSome ∧ scope as ≠ none ∨ declared? a = none ∧ HasOpenMember as := by
  rw [opened?_isSome]
  constructor
  · rintro ⟨earlier, b, later, hcut, hb, hs, hl⟩
    rcases List.eq_nil_or_concat later with rfl | ⟨later, c, rfl⟩
    · obtain ⟨rfl, hab⟩ := List.append_inj' hcut rfl
      cases hab
      exact .inl ⟨hb, hs⟩
    · have hcut' : as ++ [a] = (earlier ++ b :: later) ++ [c] := by simpa using hcut
      obtain ⟨rfl, hac⟩ := List.append_inj' hcut' rfl
      cases hac
      refine .inr ⟨hl a (by simp), earlier, b, later, rfl, hb, hs, ?_⟩
      intro c hc
      exact hl c (by simp [hc])
  · rintro (⟨ha, hs⟩ | ⟨hd, earlier, b, later, rfl, hb, hs, hl⟩)
    · exact ⟨as, a, [], rfl, ha, hs, by simp⟩
    · refine ⟨earlier, b, later ++ [a], by simp, hb, hs, ?_⟩
      intro c hc
      rcases List.mem_append.1 hc with hc | hc
      · exact hl c hc
      · rw [List.mem_singleton.1 hc, hd]

/-- A member is open if an entity has been declared and the last remark that opened anything opened
a member. -/
theorem hasOpenMember_iff {as : List Remark} :
    HasOpenMember as ↔ scope as ≠ none ∧ openMember as ≠ none := by
  induction as using List.reverseRecOn with
  | nil =>
    constructor
    · rintro ⟨earlier, a, later, hcut, _⟩
      simp at hcut
    · rintro ⟨hs, _⟩
      exact absurd rfl hs
  | append_singleton as a ih =>
    rw [hasOpenMember_snoc, ih, scope_snoc, openMember_snoc]
    cases hd : declared? a with
    | some key =>
      have ho : opened? a = none := by
        refine Option.eq_none_iff_forall_ne_some.2 ?_
        intro n hn
        rw [(tag_of_opened? hn).1] at hd
        cases hd
      simp [opens, hd, ho]
    | none =>
      cases ho : opened? a with
      | some n =>
        simp [opens, hd, ho]
        tauto
      | none => simp [opens, hd, ho]

theorem endsInConstructor_iff {as : List Remark} :
    EndsInConstructor as ↔ openMember as = some .constructor := by
  rw [EndsInConstructor, openMember]
  cases opener as with
  | none => simp
  | some o => simp [opened?_eq_constructor]

instance (before : List Remark) : Decidable (HasOpenMember before) :=
  decidable_of_iff' _ hasOpenMember_iff

instance (before : List Remark) : Decidable (EndsInConstructor before) :=
  decidable_of_iff' _ endsInConstructor_iff

instance (before : List Remark) (a : Remark) : Decidable (Dropped before a) :=
  inferInstanceAs (Decidable (_ ∨ _ ∨ _ ∨ _))

end History

namespace Builder

theorem apply_of_unknownTag {b : Builder} {a : Remark} (hne : a.tag ≠ [])
    (h : ∀ tag : Tag, a.tag ≠ tag.text) : b.apply a = (b, [.unknownTag a.tag a.label]) := by
  have hn : Tag.ofText? a.tag = none := by
    cases ht : Tag.ofText? a.tag with
    | none => rfl
    | some tag => exact absurd (Tag.ofText?_eq_some.1 ht) (h tag)
  have hp : a.isPreamble = false := by
    rw [Remark.isPreamble, List.isEmpty_eq_false_iff]
    exact hne
  rw [apply, hp, hn]
  rfl

theorem exists_inEntity (b : Builder) {a : Remark}
    (h : a.tag = "method" ∨ a.tag = "constructor" ∨ a.tag = "extends") :
    ∃ change member, b.apply a = b.inEntity a change member := by
  have htag : a.tag = Tag.method.text ∨ a.tag = Tag.constructor.text ∨
      a.tag = Tag.supertype.text := h
  rcases htag with ht | ht | ht
  · rw [apply_of_tag ht, applyTag]
    exact ⟨_, _, rfl⟩
  · rw [apply_of_tag ht, applyTag]
    exact ⟨_, _, rfl⟩
  · rw [apply_of_tag ht, applyTag]
    exact ⟨_, _, rfl⟩

theorem exists_inMember (b : Builder) {a : Remark} (h : a.tag = "param" ∨ a.tag = "return") :
    ∃ refuse change, b.apply a = b.inMember a refuse change := by
  have htag : a.tag = Tag.param.text ∨ a.tag = Tag.returns.text := h
  rcases htag with ht | ht
  · rw [apply_of_tag ht, applyTag]
    exact ⟨_, _, rfl⟩
  · rw [apply_of_tag ht, applyTag]
    exact ⟨_, _, rfl⟩

def stored? (b : Builder) (key : EntityKey) (n : Member) : Option Method :=
  (b.result.get? key).bind (·.member? n)

theorem stored?_of_get? {b : Builder} {key : EntityKey} {e : Entity} {n : Member} {m : Method}
    (he : b.result.get? key = some e) (hm : e.member? n = some m) : b.stored? key n = some m := by
  rw [stored?, he]
  exact hm

theorem stored?_modify {b : Builder} {key : EntityKey} {e : Entity} {change : Entity → Entity}
    {entity : Option EntityKey} {member : Option Member} {n : Member}
    (he : b.result.get? key = some e) :
    stored? ⟨b.result.modify key change, entity, member⟩ key n = (change e).member? n := by
  simp [stored?, Namespace.get?_modify, he]

/-- What the remark says is in the builder `b'`, which comes out of `b`, and the focus stands where
the next remarks are to go. -/
inductive TakesEffect (b : Builder) (a : Remark) (b' : Builder) : Prop where
  | entity {kind : Kind} {e : Entity} : a.tag = kind.tag →
      b'.focus = some ⟨⟨kind, a.label⟩, none⟩ → b'.result.get? ⟨kind, a.label⟩ = some e →
      e.label = a.label → e.description = a.text → TakesEffect b a b'
  | method {key : EntityKey} {n : Option Member} {m : Method} : a.tag = "method" →
      b.focus = some ⟨key, n⟩ → b'.focus = some ⟨key, some (.method a.label)⟩ →
      b'.stored? key (.method a.label) = some m → m.description = a.text → TakesEffect b a b'
  | constructor {key : EntityKey} {n : Option Member} {m : Method} : a.tag = "constructor" →
      b.focus = some ⟨key, n⟩ → b'.focus = some ⟨key, some .constructor⟩ →
      b'.stored? key .constructor = some m → m.description = a.label ++ a.text → m.params = [] →
      TakesEffect b a b'
  | supertype {key : EntityKey} {n : Option Member} {e e' : Entity} : a.tag = "extends" →
      b.focus = some ⟨key, n⟩ → b'.focus = b.focus → b.result.get? key = some e →
      b'.result.get? key = some e' → e'.supertypes = e.supertypes ++ [a.label] → TakesEffect b a b'
  | param {key : EntityKey} {n : Member} {m m' : Method} : a.tag = "param" →
      b.focus = some ⟨key, some n⟩ → b'.focus = b.focus → b.stored? key n = some m →
      b'.stored? key n = some m' → m'.params = m.params ++ [⟨a.label, a.text⟩] → TakesEffect b a b'
  | returns {key : EntityKey} {n : Member} {m m' : Method} : a.tag = "return" →
      b.focus = some ⟨key, some n⟩ → b'.focus = b.focus → b.stored? key n = some m →
      b'.stored? key n = some m' → m'.returns = some ⟨a.label, a.text⟩ → TakesEffect b a b'

end Builder

namespace History
namespace Follows

variable {as : List Remark} {a : Remark} {b : Builder}

theorem focus_eq_none (h : Follows as b) (hs : scope as = none) : b.focus = none := by
  rw [h.focus_eq, focus, hs]
  rfl

theorem focusedMember_eq_none (h : Follows as b) (ho : ¬HasOpenMember as) :
    b.focus.bind Focus.member = none := by
  rw [hasOpenMember_iff, not_and_or, not_not, not_not] at ho
  rw [h.focus_eq, focus]
  rcases ho with hs | hm
  · simp [hs]
  · cases scope as with
    | none => rfl
    | some key => simp [hm]

theorem exists_entity (h : Follows as b) (hb : b.Consistent) (hs : scope as ≠ none) :
    ∃ key e, b.focus = some ⟨key, openMember as⟩ ∧ b.result.get? key = some e := by
  obtain ⟨key, hkey⟩ := Option.ne_none_iff_exists'.1 hs
  have hf : b.focus = some ⟨key, openMember as⟩ := by
    rw [h.focus_eq, focus, hkey]
    rfl
  obtain ⟨e, he, _⟩ := hb.focused hf
  exact ⟨key, e, hf, he⟩

theorem exists_member (h : Follows as b) (hb : b.Consistent) (ho : HasOpenMember as) :
    ∃ key n e m, b.focus = some ⟨key, some n⟩ ∧ openMember as = some n ∧
      b.result.get? key = some e ∧ e.member? n = some m ∧ n.Stores key m := by
  obtain ⟨hs, hm⟩ := hasOpenMember_iff.1 ho
  obtain ⟨n, hn⟩ := Option.ne_none_iff_exists'.1 hm
  obtain ⟨key, e, hf, he⟩ := h.exists_entity hb hs
  rw [hn] at hf
  obtain ⟨e', he', hmem⟩ := hb.focused hf
  obtain ⟨m, hm⟩ := hmem n rfl
  rw [he] at he'
  cases he'
  exact ⟨key, n, e, m, hf, hn, he, hm, (hb.stored key e he).members n m hm⟩

/-! ## One remark -/

/-- A remark that is dropped changes nothing, and one event says why. -/
theorem apply_of_reported (h : Follows as b) (hb : b.Consistent) (hne : a.tag ≠ []) {e : Event}
    (he : Reported as a e) : b.apply a = (b, [e]) := by
  cases he with
  | unknownTag ht =>
    exact Builder.apply_of_unknownTag hne fun tag hn => ht (mem_knownTags.2 ⟨tag, hn⟩)
  | outsideEntity ht hs =>
    obtain ⟨change, member, happly⟩ := b.exists_inEntity ht
    rw [happly, Builder.inEntity_of_none (h.focus_eq_none hs)]
  | outsideMethod ht ho =>
    obtain ⟨refuse, change, happly⟩ := b.exists_inMember ht
    rw [happly, Builder.inMember_of_none (h.focusedMember_eq_none ho)]
  | constructorReturn ht ho hc =>
    obtain ⟨key, n, e, m, hf, hn, he, hm, hst⟩ := h.exists_member hb ho
    rw [endsInConstructor_iff.1 hc] at hn
    cases hn
    have ht' : a.tag = Tag.returns.text := ht
    rw [Builder.apply_of_tag ht', Builder.applyTag, Builder.inMember_of_focus hf he hm, hst.2.2.1]
    rfl

/-- A remark that is not dropped takes effect, and no event says that it is. -/
theorem takesEffect (h : Follows as b) (hb : b.Consistent) (hd : ¬Dropped as a) :
    b.TakesEffect a (b.apply a).1 ∧ (b.apply a).2.filter Event.isDrop = [] := by
  simp only [Dropped, not_or, not_not, not_and] at hd
  obtain ⟨hknown, hentity, hmember, hreturn⟩ := hd
  obtain ⟨tag, ht⟩ := mem_knownTags.1 hknown
  rw [Builder.apply_of_tag ht]
  cases tag with
  | entity kind =>
    have hstored := Builder.get?_declare b ⟨kind, a.label⟩ ⟨kind, a.label⟩ a.text
    rw [if_pos rfl] at hstored
    refine ⟨.entity ht rfl hstored rfl rfl, ?_⟩
    rw [Builder.applyTag, Builder.declare]
    split
    · rfl
    · rfl
  | method =>
    obtain ⟨key, e, hf, he⟩ := h.exists_entity hb (hentity (.inl ht))
    have hmem := Entity.member?_describeMethod e a.label a.text (.method a.label)
    rw [if_pos rfl] at hmem
    rw [Builder.applyTag, Builder.inEntity_of_focus hf he]
    exact ⟨.method ht hf rfl ((Builder.stored?_modify he).trans hmem) rfl, rfl⟩
  | constructor =>
    obtain ⟨key, e, hf, he⟩ := h.exists_entity hb (hentity (.inr (.inl ht)))
    rw [Builder.applyTag, Builder.inEntity_of_focus hf he]
    exact ⟨.constructor ht hf rfl (Builder.stored?_modify he) rfl rfl, rfl⟩
  | supertype =>
    obtain ⟨key, e, hf, he⟩ := h.exists_entity hb (hentity (.inr (.inr ht)))
    have hstored := Namespace.get?_modify b.result key key (·.addSupertype a.label)
    rw [if_pos rfl, he] at hstored
    rw [Builder.applyTag, Builder.inEntity_of_focus hf he]
    exact ⟨.supertype ht hf hf.symm he hstored rfl, rfl⟩
  | param =>
    obtain ⟨key, n, e, m, hf, _, he, hm, _⟩ := h.exists_member hb (hmember (.inl ht))
    have hmem := Entity.member?_modifyMember e (·.addParam ⟨a.label, a.text⟩) n n
    rw [if_pos rfl, hm] at hmem
    rw [Builder.applyTag, Builder.inMember_of_focus hf he hm]
    exact ⟨.param ht hf rfl (Builder.stored?_of_get? he hm)
      ((Builder.stored?_modify he).trans hmem) rfl, rfl⟩
  | returns =>
    obtain ⟨key, n, e, m, hf, hn, he, hm, hst⟩ := h.exists_member hb (hmember (.inr ht))
    have hc : m.isConstructor = false := by
      cases n with
      | constructor => exact absurd (endsInConstructor_iff.2 hn) (hreturn ht)
      | method name => exact hst.2.2
    have hmem := Entity.member?_modifyMember e (·.setReturn ⟨a.label, a.text⟩) n n
    rw [if_pos rfl, hm] at hmem
    rw [Builder.applyTag, Builder.inMember_of_focus hf he hm, hc]
    exact ⟨.returns ht hf rfl (Builder.stored?_of_get? he hm)
      ((Builder.stored?_modify he).trans hmem) rfl, rfl⟩

end Follows

/-! ## Runs -/

/-- Each remark with those before it. -/
def histories (as : List Remark) : List (List Remark × Remark) :=
  as.zipIdx.map fun (a, i) => (as.take i, a)

/-- The remarks that are dropped, with those before them. Preambles do not count. -/
def dropped (as : List Remark) : List (List Remark × Remark) :=
  (histories as).filter fun (before, a) => a.tag ≠ [] ∧ Dropped before a

theorem histories_snoc (as : List Remark) (a : Remark) :
    histories (as ++ [a]) = histories as ++ [(as, a)] := by
  have hold : as.zipIdx.map (fun (b, i) => ((as ++ [a]).take i, b)) = histories as := by
    refine List.map_congr_left ?_
    rintro ⟨b, i⟩ hb
    have hi : i ≤ as.length := by
      have := List.snd_lt_add_of_mem_zipIdx hb
      omega
    simp only [List.take_append_of_le_length hi]
  rw [histories, List.zipIdx_append, List.map_append, hold]
  simp

theorem dropped_snoc (as : List Remark) (a : Remark) :
    dropped (as ++ [a]) = dropped as ++ if a.tag ≠ [] ∧ Dropped as a then [(as, a)] else [] := by
  rw [dropped, histories_snoc, List.filter_append, dropped]
  by_cases h : a.tag ≠ [] ∧ Dropped as a
  · simp [h]
  · simp [h]

theorem isDrop_of_reported {before : List Remark} {a : Remark} {e : Event}
    (h : Reported before a e) : e.isDrop = true := by
  cases h <;> rfl

/-- The events of a run that report something dropped, against the remarks that are dropped. -/
theorem forall₂_reported (as : List Remark) :
    List.Forall₂ (fun e p => Reported p.1 p.2 e)
      ((Builder.empty.applyAll as).2.filter Event.isDrop) (dropped as) := by
  induction as using List.reverseRecOn with
  | nil => exact .nil
  | append_singleton as a ih =>
    have hfollows := follows_applyAll as
    have hconsistent := Builder.Consistent.empty.applyAll as
    rw [Builder.applyAll_append, List.filter_append, dropped_snoc]
    refine List.rel_append ih ?_
    by_cases hne : a.tag = []
    · have hp : a.isPreamble = true := by
        rw [Remark.isPreamble, hne]
        rfl
      simp [Builder.applyAll, Builder.apply, hp, hne]
    · by_cases hd : Dropped as a
      · obtain ⟨e, he⟩ := dropped_iff.1 hd
        have happly := hfollows.apply_of_reported hconsistent hne he
        simp [Builder.applyAll, happly, hne, hd, isDrop_of_reported he, he]
      · have happly := (hfollows.takesEffect hconsistent hd).2
        simp [Builder.applyAll, happly, hd]

end History

theorem Builder.Reachable.exists_remarks {b : Builder} (h : b.Reachable) :
    ∃ as, b = (Builder.empty.applyAll as).1 := by
  induction h with
  | empty => exact ⟨[], rfl⟩
  | apply a _ ih =>
    obtain ⟨as, rfl⟩ := ih
    refine ⟨as ++ [a], ?_⟩
    rw [applyAll_append]
    rfl
  | read source _ ih =>
    obtain ⟨as, rfl⟩ := ih
    refine ⟨as ++ (Comment.bodies source).flatMap Remark.ofBody, ?_⟩
    rw [applyAll_append]
    rfl

namespace History

def dropMessages : List Text :=
  ["ignoring unknown annotation", "dropping annotation outside of any class or mixin",
    "dropping annotation outside of any method", "dropping return on constructor"]

/-- An event that reports something dropped is logged by a run that is asked to be verbose. -/
theorem logged_of_isDrop {e : Event} (h : e.isDrop = true) :
    e.message ∈ dropMessages ∧
      (Filter.choose none true).admits e.target e.fieldNames e.level = true := by
  cases e with
  | unknownTag tag label => exact ⟨.head _, rfl⟩
  | outsideEntity tag label => exact ⟨.tail _ (.head _), rfl⟩
  | outsideMethod tag label => exact ⟨.tail _ (.tail _ (.head _)), rfl⟩
  | constructorReturn label => exact ⟨.tail _ (.tail _ (.tail _ (.head _))), rfl⟩
  | _ => cases h

/-- Whatever remarks a builder has applied, the tags of these decide whether the next one is
dropped. If so, nothing changes and one event reports it; if not, it takes effect and no event
reports it as dropped. So the events of a run that report something dropped, all of which are
logged if the run is verbose, stand for the remarks that are dropped, one by one and in order. -/
theorem drops_accounted :
    (∀ b : Builder, b.Reachable ↔ ∃ as, b = (Builder.empty.applyAll as).1) ∧
    (∀ as a, a.tag ≠ [] →
      let b := (Builder.empty.applyAll as).1
      (Dropped as a → ∃ e, b.apply a = (b, [e]) ∧ e.isDrop ∧ Reported as a e) ∧
      (¬Dropped as a → b.TakesEffect a (b.apply a).1 ∧
        (b.apply a).2.filter Event.isDrop = [])) ∧
    (∀ as, List.Forall₂ (fun e p => Reported p.1 p.2 e)
      ((Builder.empty.applyAll as).2.filter Event.isDrop) (dropped as)) ∧
    ∀ e : Event, e.isDrop → e.message ∈ dropMessages ∧
      (Filter.choose none true).admits e.target e.fieldNames e.level := by
  refine ⟨fun b => ⟨fun h => h.exists_remarks, ?_⟩, ?_, forall₂_reported, fun e => logged_of_isDrop⟩
  · rintro ⟨as, rfl⟩
    exact Builder.Reachable.empty.applyAll as
  · intro as a hne b
    have hfollows : Follows as b := follows_applyAll as
    have hconsistent : b.Consistent := Builder.Consistent.empty.applyAll as
    refine ⟨?_, fun hd => hfollows.takesEffect hconsistent hd⟩
    intro hd
    obtain ⟨e, he⟩ := dropped_iff.1 hd
    exact ⟨e, hfollows.apply_of_reported hconsistent hne he, isDrop_of_reported he, he⟩

example : (dropped [⟨"method", "draw", []⟩, ⟨"class", "Layer", []⟩, ⟨"param", "x", []⟩,
    ⟨"constructor", [], []⟩, ⟨"param", "y", []⟩, ⟨"see", [], []⟩, ⟨"return", "Layer", []⟩]).map
      (fun p => (p.1.length, p.2.tag)) =
    [(0, ("method" : Text)), (2, "param"), (5, "see"), (6, "return")] := by
  decide

end History
end CommentDocs
