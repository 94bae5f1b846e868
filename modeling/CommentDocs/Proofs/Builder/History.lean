import CommentDocs.Proofs.Builder.Apply
import Mathlib.Data.List.Induction

/-!
# CommentDocs.Proofs.Builder.History

What a list of remarks documents, read off the whole list and without any builder. Each remark has a
scope, the entity declared last before it, and an opener, the last remark before it that declares an
entity or opens a member. `History.documented` is made of filters over the remarks with these two.

The list is taken apart at its end: `entries_snoc` says that a further remark leaves all entries
before it as they are, and `scope_snoc` and `opener_snoc` say what the next one will see.
-/

namespace CommentDocs

/-- A remark at its place among others: its position, its scope, and its opener with the position
of that. -/
structure Entry where
  position : Nat
  remark : Remark
  scope : Option EntityKey
  opener : Option (Remark × Nat)

def Remark.param (a : Remark) : Param := ⟨a.label, a.text⟩

namespace History

def declared? (a : Remark) : Option EntityKey :=
  if a.tag = (Tag.entity .cls).text then some ⟨.cls, a.label⟩
  else if a.tag = (Tag.entity .mixin).text then some ⟨.mixin, a.label⟩
  else none

def opened? (a : Remark) : Option Member :=
  if a.tag = Tag.method.text then some (.method a.label)
  else if a.tag = Tag.constructor.text then some .constructor
  else none

def opens (a : Remark) : Bool := (declared? a).isSome || (opened? a).isSome

/-- The entity declared last. -/
def scope (before : List Remark) : Option EntityKey := (before.filterMap declared?).getLast?

/-- The last remark that opens something, with its position. -/
def opener (before : List Remark) : Option (Remark × Nat) :=
  (before.zipIdx.filter fun (a, _) => opens a).getLast?

def entries (as : List Remark) : List Entry :=
  as.zipIdx.map fun (a, i) => ⟨i, a, scope (as.take i), opener (as.take i)⟩

def select (as : List Remark) (q : Entry → Prop) [DecidablePred q] : List Entry :=
  (entries as).filter fun p => q p

end History

namespace Entry

/-- The entry has this tag, and the entity with this key is its scope. -/
def IsIn (tag : Tag) (key : EntityKey) (p : Entry) : Prop :=
  p.remark.tag = tag.text ∧ p.scope = some key

/-- The opener of the entry opens this method. -/
def IsUnder (name : Text) (p : Entry) : Prop :=
  (p.opener.bind fun o => History.opened? o.1) = some (.method name)

instance (tag : Tag) (key : EntityKey) : DecidablePred (IsIn tag key) :=
  fun p => inferInstanceAs (Decidable (p.remark.tag = tag.text ∧ p.scope = some key))

instance (name : Text) : DecidablePred (IsUnder name) :=
  fun p => inferInstanceAs
    (Decidable ((p.opener.bind fun o => History.opened? o.1) = some (.method name)))

end Entry

namespace History

section Documented

variable (as : List Remark) (key : EntityKey)

def description? : Option Text :=
  (as.filter fun a => declared? a = some key).getLast?.map Remark.text

def supertypes : List Text := (select as (Entry.IsIn .supertype key)).map (·.remark.label)

/-- The method with a name, as the last remark that opens it describes it. -/
def method? (name : Text) : Option Method :=
  (select as fun p => p.IsIn .method key ∧ p.remark.label = name).getLast?.map fun p =>
    { name
      description := p.remark.text
      params := (select as fun q => q.IsIn .param key ∧ q.IsUnder name).map (·.remark.param)
      returns :=
        (select as fun q => q.IsIn .returns key ∧ q.IsUnder name).getLast?.map (·.remark.param)
      owner := key
      isConstructor := false }

/-- The constructor that the last remark `c` for one opens; parameters of earlier ones are lost. -/
def constructor? : Option Method :=
  (select as (Entry.IsIn .constructor key)).getLast?.map fun c =>
    { name := []
      description := c.remark.label ++ c.remark.text
      params :=
        (select as fun q => q.IsIn .param key ∧ q.opener = some (c.remark, c.position)).map
          (·.remark.param)
      returns := none
      owner := key
      isConstructor := true }

def member? : Member → Option Method
  | .method name => method? as key name
  | .constructor => constructor? as key

/-- The map that takes the keys of a list to their values. -/
def collect {κ β : Type} [Ord κ] [Std.TransOrd κ] (keys : List κ) (f : κ → Option β) :
    Std.ExtTreeMap κ β :=
  keys.foldr (fun k t => match f k with
    | some v => t.insert k v
    | none => t) ∅

/-- The entity with a key, given its description. -/
def described (description : Text) : Entity :=
  { kind := key.kind
    name := key.name
    label := key.name
    description
    methods := collect (as.map Remark.label) (method? as key)
    constructor := constructor? as key
    supertypes := supertypes as key }

/-- The entity with a key; there is one if some remark declares it. -/
def entity? : Option Entity := (description? as key).map (described as key)

/-- Everything that the remarks document. -/
def documented : Namespace := ⟨collect (as.filterMap declared?) (entity? as)⟩

/-- The member that the next remark will find open. -/
def openMember : Option Member := (opener as).bind fun o => opened? o.1

/-- What the next remark will find in focus. -/
def focus : Option Focus := (scope as).map fun key => ⟨key, openMember as⟩

end Documented

/-! ## One more remark -/

theorem declared?_eq_some {a : Remark} {key : EntityKey} :
    declared? a = some key ↔ a.tag = (Tag.entity key.kind).text ∧ a.label = key.name := by
  obtain ⟨kind, name⟩ := key
  constructor
  · intro h
    rw [declared?] at h
    split at h
    · rename_i ha; cases h; exact ⟨ha, rfl⟩
    · split at h
      · rename_i ha; cases h; exact ⟨ha, rfl⟩
      · cases h
  · rintro ⟨ha, rfl⟩
    cases kind with
    | cls => rw [declared?, if_pos ha]
    | mixin =>
      have hc : a.tag ≠ (Tag.entity .cls).text := by
        intro hc
        cases Tag.text_injective (hc.symm.trans ha)
      rw [declared?, if_neg hc, if_pos ha]

def declaredBy (label : Text) : Tag → Option EntityKey
  | .entity kind => some ⟨kind, label⟩
  | _ => none

def openedBy (label : Text) : Tag → Option Member
  | .method => some (.method label)
  | .constructor => some .constructor
  | _ => none

theorem declared?_of_tag {a : Remark} {tag : Tag} (h : a.tag = tag.text) :
    declared? a = declaredBy a.label tag := by
  cases tag with
  | entity kind => exact declared?_eq_some.2 ⟨h, rfl⟩
  | _ =>
    refine Option.eq_none_iff_forall_ne_some.2 ?_
    intro key hk
    cases Tag.text_injective (h.symm.trans (declared?_eq_some.1 hk).1)

theorem opened?_of_tag {a : Remark} {tag : Tag} (h : a.tag = tag.text) :
    opened? a = openedBy a.label tag := by
  have htag : ∀ t : Tag, a.tag = t.text → t = tag :=
    fun t ht => Tag.text_injective (ht.symm.trans h)
  rw [opened?]
  split
  · rename_i hm; cases htag _ hm; rfl
  · rename_i hm
    split
    · rename_i hc; cases htag _ hc; rfl
    · rename_i hc
      cases tag with
      | method => exact absurd h hm
      | constructor => exact absurd h hc
      | _ => rfl

theorem tag_of_opened? {a : Remark} {n : Member} (h : opened? a = some n) :
    declared? a = none ∧
      match n with
      | .method name => a.tag = Tag.method.text ∧ a.label = name
      | .constructor => a.tag = Tag.constructor.text := by
  rw [opened?] at h
  split at h
  · rename_i ha; cases h
    exact ⟨declared?_of_tag ha, ha, rfl⟩
  · split at h
    · rename_i ha; cases h
      exact ⟨declared?_of_tag ha, ha⟩
    · cases h

theorem opens_of_tag {a : Remark} {tag : Tag} (h : a.tag = tag.text) :
    opens a = ((declaredBy a.label tag).isSome || (openedBy a.label tag).isSome) := by
  rw [opens, declared?_of_tag h, opened?_of_tag h]

theorem not_opens_of_unknown {a : Remark} (h : ∀ tag : Tag, a.tag ≠ tag.text) :
    opens a = false := by
  simp [opens, declared?, opened?, h]

theorem scope_snoc (as : List Remark) (a : Remark) :
    scope (as ++ [a]) = (declared? a).or (scope as) := by
  rw [scope, List.filterMap_append, List.getLast?_append, scope]
  cases hd : declared? a with
  | none => simp [hd]
  | some key => simp [hd]

theorem opener_snoc (as : List Remark) (a : Remark) :
    opener (as ++ [a]) = if opens a then some (a, as.length) else opener as := by
  rw [opener, List.zipIdx_append, List.filter_append, List.getLast?_append, opener]
  cases ho : opens a with
  | false => simp [ho]
  | true => simp [ho]

def entry (as : List Remark) (a : Remark) : Entry := ⟨as.length, a, scope as, opener as⟩

theorem entries_snoc (as : List Remark) (a : Remark) :
    entries (as ++ [a]) = entries as ++ [entry as a] := by
  have hold : as.zipIdx.map (fun (b, i) =>
      (⟨i, b, scope ((as ++ [a]).take i), opener ((as ++ [a]).take i)⟩ : Entry)) = entries as := by
    refine List.map_congr_left ?_
    rintro ⟨b, i⟩ hb
    have hi : i ≤ as.length := by
      have := List.snd_lt_add_of_mem_zipIdx hb
      omega
    simp only [List.take_append_of_le_length hi]
  rw [entries, List.zipIdx_append, List.map_append, hold]
  simp [entry]

theorem select_snoc (as : List Remark) (a : Remark) (q : Entry → Prop) [DecidablePred q] :
    select (as ++ [a]) q = select as q ++ if q (entry as a) then [entry as a] else [] := by
  rw [select, entries_snoc, List.filter_append, select]
  by_cases hq : q (entry as a)
  · simp [hq]
  · simp [hq]

/-! ## What the entries know of each other -/

theorem mem_select {as : List Remark} {q : Entry → Prop} [DecidablePred q] {p : Entry} :
    p ∈ select as q ↔ p ∈ entries as ∧ q p := by
  rw [select, List.mem_filter, decide_eq_true_eq]

theorem declared_of_scope {as : List Remark} {key : EntityKey} (h : scope as = some key) :
    ∃ a ∈ as, declared? a = some key :=
  List.mem_filterMap.1 (List.mem_of_getLast? h)

theorem declared_of_mem_entries {as : List Remark} {p : Entry} {key : EntityKey}
    (hp : p ∈ entries as) (hk : p.scope = some key) : ∃ a ∈ as, declared? a = some key := by
  obtain ⟨⟨b, i⟩, hb, rfl⟩ := List.mem_map.1 hp
  obtain ⟨a, ha, hd⟩ := declared_of_scope hk
  exact ⟨a, List.mem_of_mem_take ha, hd⟩

theorem prefix_entries_append (as bs : List Remark) : entries as <+: entries (as ++ bs) := by
  induction bs using List.reverseRecOn with
  | nil => simp
  | append_singleton bs b ih =>
    rw [← List.append_assoc, entries_snoc]
    exact ih.trans (List.prefix_append ..)

theorem declared?_of_not_opens {a : Remark} (h : opens a = false) : declared? a = none := by
  rw [opens, Bool.or_eq_false_iff] at h
  simpa using h.1

/-- A remark that opens nothing leaves the scope as it is. -/
theorem scope_snoc_of_not_opens {as : List Remark} {a : Remark} (h : opens a = false) :
    scope (as ++ [a]) = scope as := by
  rw [scope_snoc, declared?_of_not_opens h, Option.none_or]

/-- An opener that declares nothing is itself an entry, and its scope is still the scope. -/
theorem exists_entry_of_opener {as : List Remark} {o : Remark} {j : Nat}
    (ho : opener as = some (o, j)) (hd : declared? o = none) :
    ∃ p ∈ entries as, p.remark = o ∧ p.position = j ∧ p.scope = scope as := by
  induction as using List.reverseRecOn with
  | nil => cases ho
  | append_singleton as a ih =>
    rw [opener_snoc] at ho
    rw [entries_snoc]
    split at ho
    · cases ho
      refine ⟨entry as o, List.mem_append_right _ (List.mem_singleton_self _), rfl, rfl, ?_⟩
      rw [scope_snoc, hd, Option.none_or]; rfl
    · rename_i hop
      obtain ⟨p, hp, h1, h2, h3⟩ := ih ho
      refine ⟨p, List.mem_append_left _ hp, h1, h2, ?_⟩
      rw [h3, scope_snoc_of_not_opens (by simpa using hop)]

theorem exists_entry_of_mem_entries {as : List Remark} {p : Entry} {o : Remark} {j : Nat}
    (hp : p ∈ entries as) (ho : p.opener = some (o, j)) (hd : declared? o = none) :
    ∃ q ∈ entries as, q.remark = o ∧ q.position = j ∧ q.scope = p.scope := by
  obtain ⟨⟨b, i⟩, _, rfl⟩ := List.mem_map.1 hp
  obtain ⟨q, hq, h⟩ := exists_entry_of_opener ho hd
  refine ⟨q, ?_, h⟩
  have := (prefix_entries_append (as.take i) (as.drop i)).subset hq
  rwa [List.take_append_drop] at this

theorem opener_position_lt {as : List Remark} {o : Remark} {j : Nat}
    (ho : opener as = some (o, j)) : j < as.length := by
  have := List.mem_filter.1 (List.mem_of_getLast? ho)
  simpa using List.snd_lt_add_of_mem_zipIdx this.1

theorem opener_position_lt_of_mem_entries {as : List Remark} {p : Entry} {o : Remark} {j : Nat}
    (hp : p ∈ entries as) (ho : p.opener = some (o, j)) : j < as.length := by
  obtain ⟨⟨b, i⟩, _, rfl⟩ := List.mem_map.1 hp
  have h1 := opener_position_lt ho
  have h2 : (as.take i).length ≤ as.length := List.length_take_le' ..
  omega

/-- If a constructor is the opener, it is the last constructor of the scope. -/
theorem getLast?_constructor {as : List Remark} {o : Remark} {j : Nat} {key : EntityKey}
    (ho : opener as = some (o, j)) (hc : o.tag = Tag.constructor.text)
    (hs : scope as = some key) :
    ∃ p, (select as (Entry.IsIn .constructor key)).getLast? = some p ∧ p.remark = o ∧
      p.position = j := by
  induction as using List.reverseRecOn with
  | nil => cases ho
  | append_singleton as a ih =>
    rw [opener_snoc] at ho
    rw [select_snoc, List.getLast?_append]
    split at ho
    · cases ho
      rw [scope_snoc, declared?_of_tag hc] at hs
      have hq : (entry as o).IsIn .constructor key := ⟨hc, hs⟩
      rw [if_pos hq]
      exact ⟨entry as o, rfl, rfl, rfl⟩
    · rename_i hop
      rw [scope_snoc_of_not_opens (by simpa using hop)] at hs
      have hq : ¬(entry as a).IsIn .constructor key := by
        rintro ⟨ha, _⟩
        have hm : opened? a = some .constructor := opened?_of_tag ha
        exact hop (by rw [opens, hm]; simp)
      rw [if_neg hq]
      exact ih ho hs

end History
end CommentDocs
