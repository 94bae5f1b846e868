import CommentDocs.Proofs.Builder.Consistency
import CommentDocs.Proofs.Builder.History

/-!
# CommentDocs.Proofs.Builder.Documented

A builder that has applied some remarks holds what these remarks document (`History.documented`).

The invariant `Follows` compares builder and list key by key. A further remark changes members,
supertypes and description of what the list documents just as the handler for its tag changes the
entity in focus (`member?_snoc_method` and its neighbours), so the invariant is kept
(`Follows.apply`), and with it every run (`follows_applyAll`).
-/

namespace CommentDocs
namespace History

theorem getElem?_collect {κ β : Type} [Ord κ] [Std.TransOrd κ] [Std.LawfulEqOrd κ]
    (f : κ → Option β) {k : κ} {keys : List κ} (h : k ∈ keys ∨ f k = none) :
    (collect keys f)[k]? = f k := by
  induction keys with
  | nil =>
    have hk : f k = none := by simpa using h
    simp [collect, hk]
  | cons l keys ih =>
    rw [collect, List.foldr_cons, ← collect]
    cases hl : f l with
    | none =>
      refine ih ?_
      rcases h with h | h
      · rcases List.mem_cons.1 h with rfl | h
        · exact .inr hl
        · exact .inl h
      · exact .inr h
    | some v =>
      rw [Std.ExtTreeMap.getElem?_insert]
      split
      · rename_i hk; cases Std.LawfulEqOrd.eq_of_compare hk; exact hl.symm
      · rename_i hk
        refine ih ?_
        rcases h with h | h
        · rcases List.mem_cons.1 h with rfl | h
          · exact absurd Std.ReflOrd.compare_self hk
          · exact .inl h
        · exact .inr h

theorem get?_documented (as : List Remark) (key : EntityKey) :
    (documented as).get? key = entity? as key := by
  refine getElem?_collect (entity? as) ?_
  cases h : entity? as key with
  | none => exact .inr rfl
  | some e =>
    obtain ⟨d, hd, _⟩ := Option.map_eq_some_iff.1 h
    obtain ⟨a, ha, _⟩ := Option.map_eq_some_iff.1 hd
    have hm := List.mem_filter.1 (List.mem_of_getLast? ha)
    exact .inl (List.mem_filterMap.2 ⟨a, hm.1, by simpa using hm.2⟩)

theorem member?_described (as : List Remark) (key : EntityKey) (description : Text) (n : Member) :
    (described as key description).member? n = member? as key n := by
  cases n with
  | constructor => rfl
  | method name =>
    refine getElem?_collect (method? as key) ?_
    cases h : method? as key name with
    | none => exact .inr rfl
    | some m =>
      obtain ⟨p, hp, _⟩ := Option.map_eq_some_iff.1 h
      obtain ⟨hp, _, hl⟩ := mem_select.1 (List.mem_of_getLast? hp)
      obtain ⟨⟨b, i⟩, hb, rfl⟩ := List.mem_map.1 hp
      exact .inl (List.mem_map.2 ⟨b, List.fst_mem_of_mem_zipIdx hb, hl⟩)

end History

theorem Entity.ext_members {d e : Entity} (hkind : d.kind = e.kind) (hname : d.name = e.name)
    (hlabel : d.label = e.label) (hdescription : d.description = e.description)
    (hsupertypes : d.supertypes = e.supertypes) (hmembers : ∀ n, d.member? n = e.member? n) :
    d = e := by
  have hmethods : d.methods = e.methods :=
    Std.ExtTreeMap.ext_getElem? fun {name} => hmembers (.method name)
  have hconstructor : d.constructor = e.constructor := hmembers .constructor
  cases d
  cases e
  simp_all

namespace History

/-! ## What one more remark documents -/

variable {as : List Remark} {a : Remark} {key : EntityKey}

theorem isIn_entry {tag t : Tag} (ha : a.tag = tag.text) :
    (entry as a).IsIn t key ↔ tag = t ∧ scope as = some key := by
  constructor
  · rintro ⟨h, hs⟩
    exact ⟨Tag.text_injective (ha.symm.trans h), hs⟩
  · rintro ⟨rfl, hs⟩
    exact ⟨ha, hs⟩

theorem not_isIn_entry {tag t : Tag} (ha : a.tag = tag.text) (ht : tag ≠ t) :
    ¬(entry as a).IsIn t key :=
  fun hi => ht ((isIn_entry ha).1 hi).1

theorem not_isIn_entry_and {tag t : Tag} {q : Prop} (ha : a.tag = tag.text) (ht : tag ≠ t) :
    ¬((entry as a).IsIn t key ∧ q) :=
  fun hi => not_isIn_entry ha ht hi.1

theorem description?_snoc :
    description? (as ++ [a]) key =
      if declared? a = some key then some a.text else description? as key := by
  rw [description?, List.filter_append, List.getLast?_append, description?]
  by_cases h : declared? a = some key
  · simp [h]
  · simp [h]

theorem supertypes_snoc :
    supertypes (as ++ [a]) key =
      supertypes as key ++ if (entry as a).IsIn .supertype key then [a.label] else [] := by
  rw [supertypes, select_snoc, List.map_append, supertypes]
  split <;> rfl

theorem supertypes_snoc_of_not (h : ¬(entry as a).IsIn .supertype key) :
    supertypes (as ++ [a]) key = supertypes as key := by
  rw [supertypes_snoc, if_neg h, List.append_nil]

theorem method?_snoc_of_not {name : Text}
    (hm : ¬((entry as a).IsIn .method key ∧ (entry as a).remark.label = name))
    (hp : ¬((entry as a).IsIn .param key ∧ (entry as a).IsUnder name))
    (hr : ¬((entry as a).IsIn .returns key ∧ (entry as a).IsUnder name)) :
    method? (as ++ [a]) key name = method? as key name := by
  simp only [method?, select_snoc, if_neg hm, if_neg hp, if_neg hr, List.append_nil]

theorem constructor?_snoc_of_not (hc : ¬(entry as a).IsIn .constructor key)
    (hp : ¬((entry as a).IsIn .param key ∧ openMember as = some .constructor)) :
    constructor? (as ++ [a]) key = constructor? as key := by
  rw [constructor?, select_snoc, if_neg hc, List.append_nil, constructor?]
  cases hl : (select as (Entry.IsIn .constructor key)).getLast? with
  | none => rfl
  | some c =>
    obtain ⟨_, hcin⟩ := mem_select.1 (List.mem_of_getLast? hl)
    have ho : ¬((entry as a).IsIn .param key ∧
        (entry as a).opener = some (c.remark, c.position)) := by
      rintro ⟨h, ho⟩
      refine hp ⟨h, ?_⟩
      have : opener as = some (c.remark, c.position) := ho
      rw [openMember, this]
      exact opened?_of_tag hcin.1
    simp only [Option.map_some, select_snoc, if_neg ho, List.append_nil]

theorem member?_snoc_of_not (n : Member)
    (h : ∀ tag ∈ [Tag.method, .constructor, .param, .returns], a.tag ≠ tag.text) :
    member? (as ++ [a]) key n = member? as key n := by
  have hin : ∀ tag ∈ [Tag.method, .constructor, .param, .returns], ¬(entry as a).IsIn tag key :=
    fun tag ht hi => h tag ht hi.1
  cases n with
  | method name =>
    exact method?_snoc_of_not (fun hi => hin .method (by simp) hi.1)
      (fun hi => hin .param (by simp) hi.1) (fun hi => hin .returns (by simp) hi.1)
  | constructor =>
    exact constructor?_snoc_of_not (hin .constructor (by simp))
      (fun hi => hin .param (by simp) hi.1)

theorem member?_snoc_of_scope_ne (hs : scope as ≠ some key) (n : Member) :
    member? (as ++ [a]) key n = member? as key n := by
  cases n with
  | method name =>
    exact method?_snoc_of_not (fun hi => hs hi.1.2) (fun hi => hs hi.1.2) (fun hi => hs hi.1.2)
  | constructor => exact constructor?_snoc_of_not (fun hi => hs hi.2) (fun hi => hs hi.1.2)

theorem member?_snoc_of_tag {tag : Tag} (ha : a.tag = tag.text)
    (ht : tag ∉ [Tag.method, .constructor, .param, .returns]) (n : Member) :
    member? (as ++ [a]) key n = member? as key n := by
  refine member?_snoc_of_not n fun t hmem he => ht ?_
  rwa [Tag.text_injective (ha.symm.trans he)]

/-- Nothing belongs to a method before the method is opened. -/
theorem select_under_eq_nil {tag : Tag} {name : Text}
    (h : select as (fun p => p.IsIn .method key ∧ p.remark.label = name) = []) :
    select as (fun q => q.IsIn tag key ∧ q.IsUnder name) = [] := by
  rw [List.eq_nil_iff_forall_not_mem] at h ⊢
  intro q hq
  obtain ⟨hq, ⟨_, hs⟩, hu⟩ := mem_select.1 hq
  obtain ⟨⟨o, j⟩, ho, hm⟩ := Option.bind_eq_some_iff.1 hu
  obtain ⟨hd, ht, hl⟩ := tag_of_opened? hm
  obtain ⟨p, hp, rfl, _, hps⟩ := exists_entry_of_mem_entries hq ho hd
  exact h p (mem_select.2 ⟨hp, ⟨ht, hps.trans hs⟩, hl⟩)

theorem member?_snoc_method (ha : a.tag = Tag.method.text) (hs : scope as = some key)
    (n : Member) :
    member? (as ++ [a]) key n =
      if n = .method a.label then
        some { (method? as key a.label).getD (Method.ofName key a.label) with
          description := a.text }
      else member? as key n := by
  cases n with
  | constructor =>
    rw [if_neg (fun e => by cases e)]
    exact constructor?_snoc_of_not (not_isIn_entry ha (by decide))
      (not_isIn_entry_and ha (by decide))
  | method name =>
    have hp : ¬((entry as a).IsIn .param key ∧ (entry as a).IsUnder name) :=
      not_isIn_entry_and ha (by decide)
    have hr : ¬((entry as a).IsIn .returns key ∧ (entry as a).IsUnder name) :=
      not_isIn_entry_and ha (by decide)
    by_cases hl : a.label = name
    · subst hl
      have hm : (entry as a).IsIn .method key ∧ (entry as a).remark.label = a.label :=
        ⟨(isIn_entry ha).2 ⟨rfl, hs⟩, rfl⟩
      rw [if_pos rfl]
      simp only [member?, method?, select_snoc, if_pos hm, if_neg hp, if_neg hr, List.append_nil,
        List.getLast?_concat, Option.map_some]
      cases hlast : (select as fun p => p.IsIn .method key ∧ p.remark.label = a.label).getLast? with
      | some p => rfl
      | none =>
        have hnil := List.getLast?_eq_none_iff.1 hlast
        simp [select_under_eq_nil hnil, Method.ofName, entry]
    · rw [if_neg (fun e => hl (Member.method.inj e).symm)]
      exact method?_snoc_of_not (fun hi => hl hi.2) hp hr

theorem member?_snoc_constructor (ha : a.tag = Tag.constructor.text) (hs : scope as = some key)
    (n : Member) :
    member? (as ++ [a]) key n =
      if n = .constructor then some (Method.newConstructor key (a.label ++ a.text))
      else member? as key n := by
  cases n with
  | method name =>
    rw [if_neg (fun e => by cases e)]
    exact method?_snoc_of_not (not_isIn_entry_and ha (by decide))
      (not_isIn_entry_and ha (by decide)) (not_isIn_entry_and ha (by decide))
  | constructor =>
    have hc : (entry as a).IsIn .constructor key := (isIn_entry ha).2 ⟨rfl, hs⟩
    -- No remark so far has the new one as its opener, so there are no parameters yet.
    have hnil : select (as ++ [a]) (fun q => q.IsIn .param key ∧
        q.opener = some ((entry as a).remark, (entry as a).position)) = [] := by
      rw [select_snoc, if_neg (not_isIn_entry_and ha (by decide)), List.append_nil,
        List.eq_nil_iff_forall_not_mem]
      intro q hq
      obtain ⟨hq, _, ho⟩ := mem_select.1 hq
      exact absurd (opener_position_lt_of_mem_entries hq ho) (Nat.lt_irrefl _)
    rw [if_pos rfl, member?, constructor?, select_snoc, if_pos hc, List.getLast?_concat,
      Option.map_some, hnil]
    rfl

theorem member?_snoc_param (ha : a.tag = Tag.param.text) (hs : scope as = some key) (n : Member) :
    member? (as ++ [a]) key n =
      if openMember as = some n then (member? as key n).map (·.addParam a.param)
      else member? as key n := by
  have hparam : (entry as a).IsIn .param key := (isIn_entry ha).2 ⟨rfl, hs⟩
  cases n with
  | method name =>
    have hm : ¬((entry as a).IsIn .method key ∧ (entry as a).remark.label = name) :=
      not_isIn_entry_and ha (by decide)
    have hr : ¬((entry as a).IsIn .returns key ∧ (entry as a).IsUnder name) :=
      not_isIn_entry_and ha (by decide)
    by_cases ho : openMember as = some (.method name)
    · have hp : (entry as a).IsIn .param key ∧ (entry as a).IsUnder name := ⟨hparam, ho⟩
      rw [if_pos ho]
      simp only [member?, method?, select_snoc, if_neg hm, if_pos hp, if_neg hr, List.append_nil,
        List.map_append, Option.map_map]
      rfl
    · rw [if_neg ho]
      exact method?_snoc_of_not hm (fun hi => ho hi.2) hr
  | constructor =>
    have hc : ¬(entry as a).IsIn .constructor key := not_isIn_entry ha (by decide)
    by_cases hopen : openMember as = some .constructor
    · obtain ⟨⟨o, j⟩, ho, hm⟩ := Option.bind_eq_some_iff.1 hopen
      obtain ⟨c, hl, rfl, rfl⟩ := getLast?_constructor ho (tag_of_opened? hm).2 hs
      have hp : (entry as a).IsIn .param key ∧
          (entry as a).opener = some (c.remark, c.position) := ⟨hparam, ho⟩
      rw [if_pos hopen]
      simp only [member?, constructor?, select_snoc _ _ (Entry.IsIn .constructor key), if_neg hc,
        List.append_nil, hl, Option.map_some, Option.some.injEq]
      rw [select_snoc, if_pos hp, List.map_append]
      rfl
    · rw [if_neg hopen]
      exact constructor?_snoc_of_not hc (fun hi => hopen hi.2)

theorem member?_snoc_returns (ha : a.tag = Tag.returns.text) (hs : scope as = some key)
    (n : Member) :
    member? (as ++ [a]) key n =
      if openMember as = some n ∧ n ≠ .constructor then
        (member? as key n).map (·.setReturn a.param)
      else member? as key n := by
  cases n with
  | constructor =>
    rw [if_neg (fun h => h.2 rfl)]
    exact constructor?_snoc_of_not (not_isIn_entry ha (by decide))
      (not_isIn_entry_and ha (by decide))
  | method name =>
    have hm : ¬((entry as a).IsIn .method key ∧ (entry as a).remark.label = name) :=
      not_isIn_entry_and ha (by decide)
    have hp : ¬((entry as a).IsIn .param key ∧ (entry as a).IsUnder name) :=
      not_isIn_entry_and ha (by decide)
    by_cases ho : openMember as = some (.method name)
    · have hr : (entry as a).IsIn .returns key ∧ (entry as a).IsUnder name :=
        ⟨(isIn_entry ha).2 ⟨rfl, hs⟩, ho⟩
      rw [if_pos ⟨ho, fun e => by cases e⟩]
      simp only [member?, method?, select_snoc, if_neg hm, if_neg hp, if_pos hr, List.append_nil,
        List.getLast?_concat, Option.map_map]
      rfl
    · rw [if_neg (fun hi => ho hi.1)]
      exact method?_snoc_of_not hm hp (fun hi => ho hi.2)

theorem described_snoc_of_not (hs : ¬(entry as a).IsIn .supertype key)
    (hm : ∀ n, member? (as ++ [a]) key n = member? as key n) :
    described (as ++ [a]) key = described as key := by
  funext d
  refine Entity.ext_members rfl rfl rfl rfl ?_ ?_
  · exact supertypes_snoc_of_not hs
  · intro n
    rw [member?_described, member?_described, hm n]

theorem described_snoc_of_scope_ne (hs : scope as ≠ some key) :
    described (as ++ [a]) key = described as key :=
  described_snoc_of_not (fun hi => hs hi.2) (member?_snoc_of_scope_ne hs)

theorem described_snoc_eq_modifyMember {f : Method → Method} {n : Member}
    (hs : ¬(entry as a).IsIn .supertype key)
    (hm : ∀ k, member? (as ++ [a]) key k =
      if n = k then (member? as key k).map f else member? as key k) (d : Text) :
    described (as ++ [a]) key d = (described as key d).modifyMember f n := by
  have hmem : ∀ k, (described (as ++ [a]) key d).member? k =
      ((described as key d).modifyMember f n).member? k := by
    intro k
    rw [member?_described, Entity.member?_modifyMember, member?_described, hm k]
  cases n with
  | method name => exact Entity.ext_members rfl rfl rfl rfl (supertypes_snoc_of_not hs) hmem
  | constructor => exact Entity.ext_members rfl rfl rfl rfl (supertypes_snoc_of_not hs) hmem

theorem entity?_snoc_of_not (hd : declared? a ≠ some key)
    (h : described (as ++ [a]) key = described as key) :
    entity? (as ++ [a]) key = entity? as key := by
  rw [entity?, description?_snoc, if_neg hd, h, entity?]

theorem entity?_snoc_of_change {change : Entity → Entity} (hd : declared? a ≠ some key)
    (h : ∀ d, described (as ++ [a]) key d = change (described as key d)) :
    entity? (as ++ [a]) key = (entity? as key).map change := by
  rw [entity?, description?_snoc, if_neg hd, entity?, Option.map_map]
  cases description? as key with
  | none => rfl
  | some d => rw [Option.map_some, h d]; rfl

/-- Nothing is said of an entity before it is declared. -/
theorem described_of_undeclared (h : description? as key = none) (d : Text) :
    described as key d = { Entity.ofKey key with description := d } := by
  have hnot : ∀ a ∈ as, declared? a ≠ some key := by
    intro a ha hk
    have hnil := List.getLast?_eq_none_iff.1 (Option.map_eq_none_iff.1 h)
    exact List.filter_eq_nil_iff.1 hnil a ha (by simpa using hk)
  have hscope : ∀ p ∈ entries as, p.scope ≠ some key := by
    intro p hp hk
    obtain ⟨a, ha, hd⟩ := declared_of_mem_entries hp hk
    exact hnot a ha hd
  have hnil : ∀ q : Entry → Prop, ∀ _ : DecidablePred q, (∀ p, q p → p.scope = some key) →
      select as q = [] := by
    intro q _ hq
    rw [List.eq_nil_iff_forall_not_mem]
    intro p hp
    obtain ⟨hp, hqp⟩ := mem_select.1 hp
    exact hscope p hp (hq p hqp)
  refine Entity.ext_members rfl rfl rfl rfl ?_ ?_
  · rw [described, supertypes, hnil _ _ fun p hp => hp.2]; rfl
  · intro n
    rw [member?_described]
    cases n with
    | method name =>
      have hm := hnil (fun p => p.IsIn .method key ∧ p.remark.label = name) inferInstance
        fun p hp => hp.1.2
      rw [member?, method?, hm]
      simp [Entity.member?, Entity.ofKey]
    | constructor => rw [member?, constructor?, hnil _ _ fun p hp => hp.2]; rfl

/-! ## The invariant -/

/-- The builder holds what the remarks document and has in focus what the next one will find. -/
structure Follows (as : List Remark) (b : Builder) : Prop where
  focus_eq : b.focus = focus as
  get?_eq : ∀ key, b.result.get? key = entity? as key

theorem scope_of_focus {f : Focus} (h : focus as = some f) :
    scope as = some f.entity ∧ openMember as = f.member := by
  obtain ⟨key, hs, rfl⟩ := Option.map_eq_some_iff.1 h
  exact ⟨hs, rfl⟩

theorem focus_snoc_of_not_opens (h : opens a = false) : focus (as ++ [a]) = focus as := by
  rw [focus, scope_snoc_of_not_opens h, openMember, opener_snoc, if_neg (by simp [h])]
  rfl

theorem focus_snoc_of_opened {n : Member} (h : opened? a = some n) :
    focus (as ++ [a]) = (focus as).map fun f => ⟨f.entity, some n⟩ := by
  have hop : opens a = true := by rw [opens, h]; simp
  rw [focus, scope_snoc, (tag_of_opened? h).1, Option.none_or, openMember, opener_snoc, if_pos hop,
    Option.bind_some, h, focus, Option.map_map]
  rfl

namespace Follows

variable {b : Builder}

theorem declare (h : Follows as b) {kind : Kind} (ha : a.tag = (Tag.entity kind).text) :
    Follows (as ++ [a]) (b.declare ⟨kind, a.label⟩ a.text).1 := by
  have hd : declared? a = some ⟨kind, a.label⟩ := declared?_of_tag ha
  have ho : opened? a = none := opened?_of_tag ha
  have hop : opens a = true := by rw [opens, hd]; rfl
  have hnot : ∀ key, described (as ++ [a]) key = described as key := by
    intro key
    exact described_snoc_of_not (not_isIn_entry ha (fun e => by cases e))
      (member?_snoc_of_tag ha (by simp))
  constructor
  · rw [Builder.focus_declare, focus, scope_snoc, hd, openMember, opener_snoc, if_pos hop,
      Option.bind_some, ho]
    rfl
  · intro key
    rw [Builder.get?_declare, h.get?_eq]
    by_cases hk : (⟨kind, a.label⟩ : EntityKey) = key
    · subst hk
      rw [if_pos rfl, entity?, entity?, description?_snoc, if_pos hd, Option.map_some, hnot]
      cases hdesc : description? as ⟨kind, a.label⟩ with
      | some d => rfl
      | none => rw [described_of_undeclared hdesc]; rfl
    · have hne : declared? a ≠ some key := by
        rw [hd]
        exact fun e => hk (Option.some.inj e)
      rw [if_neg hk, entity?_snoc_of_not hne (hnot key)]

theorem inEntity (h : Follows as b) (hb : b.Consistent) (hd : declared? a = none)
    {change : Entity → Entity} {member : Option Member → Option Member}
    (hfocus : focus (as ++ [a]) = (focus as).map fun f => ⟨f.entity, member f.member⟩)
    (hscope : ∀ key d, scope as = some key →
      described (as ++ [a]) key d = change (described as key d)) :
    Follows (as ++ [a]) (b.inEntity a change member).1 := by
  have hne : ∀ key, declared? a ≠ some key := by simp [hd]
  cases hs : scope as with
  | none =>
    have hf : b.focus = none := by rw [h.focus_eq, focus, hs]; rfl
    rw [Builder.inEntity_of_none hf]
    constructor
    · rw [hfocus, h.focus_eq, focus, hs]; rfl
    · intro key
      rw [h.get?_eq, entity?_snoc_of_not (hne key) (described_snoc_of_scope_ne (by simp [hs]))]
  | some scopeKey =>
    have hf : b.focus = some ⟨scopeKey, openMember as⟩ := by rw [h.focus_eq, focus, hs]; rfl
    obtain ⟨e, he, _⟩ := hb.focused hf
    rw [Builder.inEntity_of_focus hf he]
    constructor
    · rw [hfocus, focus, hs]; rfl
    · intro key
      simp only [Namespace.get?_modify, h.get?_eq]
      split
      · rename_i hk; subst hk
        rw [entity?_snoc_of_change (hne _) (fun d => hscope _ d hs)]
      · rename_i hk
        have hk' : scope as ≠ some key := by
          rw [hs]
          exact fun e => hk (Option.some.inj e)
        rw [entity?_snoc_of_not (hne key) (described_snoc_of_scope_ne hk')]

/-- A remark about the open member. Builder and list accept it for the same members. -/
theorem inMember (h : Follows as b) (hb : b.Consistent) (hop : opens a = false)
    (hsupertype : a.tag ≠ Tag.supertype.text) {refuse : Method → Option Event}
    {change : Method → Method} (accepts : Member → Prop) [DecidablePred accepts]
    (haccepts : ∀ (key : EntityKey) n m, n.Stores key m → (refuse m = none ↔ accepts n))
    (hmembers : ∀ key, scope as = some key → ∀ n, member? (as ++ [a]) key n =
      if openMember as = some n ∧ accepts n then (member? as key n).map change
      else member? as key n) :
    Follows (as ++ [a]) (b.inMember a refuse change).1 := by
  have hd : ∀ key, declared? a ≠ some key := by simp [declared?_of_not_opens hop]
  have hfocus : b.focus = focus (as ++ [a]) := h.focus_eq.trans (focus_snoc_of_not_opens hop).symm
  have hsup : ∀ key, ¬(entry as a).IsIn .supertype key := fun key hi => hsupertype hi.1
  -- Where the remark is not accepted it changes neither side.
  have hidle : ∀ key, (scope as = some key → ∀ n, openMember as = some n → ¬accepts n) →
      b.result.get? key = entity? (as ++ [a]) key := by
    intro key hn
    rw [h.get?_eq, entity?_snoc_of_not (hd key)]
    by_cases hs : scope as = some key
    · refine described_snoc_of_not (hsup key) fun n => ?_
      rw [hmembers key hs, if_neg (fun hi => hn hs n hi.1 hi.2)]
    · exact described_snoc_of_scope_ne hs
  cases hn : b.focus.bind Focus.member with
  | none =>
    rw [Builder.inMember_of_none hn]
    refine ⟨hfocus, fun key => hidle key ?_⟩
    intro hs n ho
    rw [h.focus_eq, focus, hs] at hn
    cases hn.symm.trans ho
  | some n =>
    obtain ⟨⟨scopeKey, _⟩, hf, ⟨⟩⟩ := Option.bind_eq_some_iff.1 hn
    obtain ⟨e, he, hm⟩ := hb.focused hf
    obtain ⟨m, hm⟩ := hm n rfl
    have hiff := haccepts scopeKey n m ((hb.stored scopeKey e he).members n m hm)
    obtain ⟨hs, ho⟩ := scope_of_focus (h.focus_eq.symm.trans hf)
    rw [Builder.inMember_of_focus hf he hm]
    cases hr : refuse m with
    | some event =>
      refine ⟨hfocus, fun key => hidle key ?_⟩
      intro _ k hk haccept
      cases ho.symm.trans hk
      cases hr.symm.trans (hiff.2 haccept)
    | none =>
      refine ⟨hfocus, fun key => ?_⟩
      simp only [Namespace.get?_modify]
      split
      · rename_i hk; subst hk
        rw [h.get?_eq, ← entity?_snoc_of_change (hd _)]
        refine described_snoc_eq_modifyMember (hsup _) fun k => ?_
        rw [hmembers _ hs, ho]
        by_cases hk : n = k
        · subst hk
          rw [if_pos ⟨rfl, hiff.1 hr⟩, if_pos rfl]
        · rw [if_neg (fun hi => hk (Option.some.inj hi.1)), if_neg hk]
      · rename_i hk
        refine hidle key fun hs' => ?_
        exact absurd (Option.some.inj (hs.symm.trans hs')) hk

theorem apply (h : Follows as b) (hb : b.Consistent) (a : Remark) :
    Follows (as ++ [a]) (b.apply a).1 := by
  by_cases ht : ∃ tag : Tag, a.tag = tag.text
  · obtain ⟨tag, ha⟩ := ht
    have htag : ∀ t : Tag, tag ≠ t → a.tag ≠ t.text :=
      fun t hne he => hne (Tag.text_injective (ha.symm.trans he))
    rw [Builder.apply_of_tag ha]
    cases tag with
    | entity kind => exact h.declare ha
    | method =>
      refine h.inEntity hb (declared?_of_tag ha) (focus_snoc_of_opened (opened?_of_tag ha)) ?_
      intro key d hs
      refine Entity.ext_members rfl rfl rfl rfl ?_ fun n => ?_
      · exact supertypes_snoc_of_not (not_isIn_entry ha (by decide))
      · have hm : (described as key d).methods[a.label]? = method? as key a.label :=
          member?_described as key d (.method a.label)
        rw [member?_described, member?_snoc_method ha hs, Entity.member?_describeMethod,
          member?_described, hm]
        rfl
    | constructor =>
      refine h.inEntity hb (declared?_of_tag ha) (focus_snoc_of_opened (opened?_of_tag ha)) ?_
      intro key d hs
      refine Entity.ext_members rfl rfl rfl rfl ?_ fun n => ?_
      · exact supertypes_snoc_of_not (not_isIn_entry ha (by decide))
      · rw [member?_described, member?_snoc_constructor ha hs]
        cases n with
        | method name => exact (member?_described as key d (.method name)).symm
        | constructor => rfl
    | supertype =>
      have hop : opens a = false := by rw [opens_of_tag ha]; rfl
      refine h.inEntity hb (declared?_of_tag ha) (by rw [focus_snoc_of_not_opens hop]; simp) ?_
      intro key d hs
      refine Entity.ext_members rfl rfl rfl rfl ?_ fun n => ?_
      · rw [described, supertypes_snoc, if_pos ((isIn_entry ha).2 ⟨rfl, hs⟩)]; rfl
      · rw [member?_described, member?_snoc_of_tag ha (by decide)]
        cases n with
        | method name => exact (member?_described as key d (.method name)).symm
        | constructor => rfl
    | param =>
      refine h.inMember hb (by rw [opens_of_tag ha]; rfl) (htag _ (by decide)) (fun _ => True)
        (fun _ _ _ _ => ⟨fun _ => trivial, fun _ => rfl⟩) ?_
      intro key hs n
      rw [member?_snoc_param ha hs]
      simp only [and_true]
      rfl
    | returns =>
      refine h.inMember hb (by rw [opens_of_tag ha]; rfl) (htag _ (by decide))
        (fun n => n ≠ .constructor) ?_ ?_
      · intro key n m hst
        cases n with
        | method name => simp [hst.2.2]
        | constructor => simp [hst.2.2.1]
      · intro key hs n
        exact member?_snoc_returns ha hs n
  · have hn : ∀ tag : Tag, a.tag ≠ tag.text := fun tag hn => ht ⟨tag, hn⟩
    have hop : opens a = false := not_opens_of_unknown hn
    rw [Builder.apply_of_unknown hn]
    refine ⟨h.focus_eq.trans (focus_snoc_of_not_opens hop).symm, fun key => ?_⟩
    have hd : declared? a ≠ some key := by simp [declared?_of_not_opens hop]
    rw [h.get?_eq, entity?_snoc_of_not hd]
    exact described_snoc_of_not (fun hi => hn _ hi.1)
      fun n => member?_snoc_of_not n fun tag _ => hn tag

end Follows

theorem follows_applyAll (as : List Remark) : Follows as (Builder.empty.applyAll as).1 := by
  induction as using List.reverseRecOn with
  | nil => exact ⟨rfl, fun key => Namespace.get?_empty key⟩
  | append_singleton as a ih =>
    rw [Builder.applyAll_append]
    exact ih.apply (Builder.Consistent.empty.applyAll as) a

/-- A builder that started empty holds exactly what its remarks document, key by key and name by
name. -/
theorem result_applyAll (as : List Remark) :
    (Builder.empty.applyAll as).1.result = documented as ∧
    (∀ key, (Builder.empty.applyAll as).1.result.get? key = entity? as key) ∧
    ∀ key description name,
      (described as key description).methods[name]? = method? as key name := by
  have hget : ∀ key, (Builder.empty.applyAll as).1.result.get? key = entity? as key :=
    (follows_applyAll as).get?_eq
  refine ⟨Namespace.ext fun key => ?_, hget, ?_⟩
  · rw [hget, get?_documented]
  · intro key description name
    exact member?_described as key description (.method name)

end History
end CommentDocs
