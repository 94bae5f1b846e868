import CommentDocs.Format
import CommentDocs.Proofs.Builder.Consistency
import CommentDocs.Proofs.Json.Printing
import CommentDocs.Proofs.Listing.Sorted

/-!
# CommentDocs.Proofs.Json.Lossless

JSON documentation loses nothing of what was read: `json_lossless`.

The values printed are less than the namespace. They leave out the name of an entity, the kind of
the owner of a member, and whether a member is the constructor; a missing return value is no field.
What is left out is told by the rest in a builder that is `Consistent`: the label of an entity is
its name, and what is stored as a member of an entity belongs to that entity.
-/

namespace CommentDocs

theorem eq_of_map_eq {α β : Type} {f : α → β} {xs ys : List α}
    (h : ∀ x ∈ xs, ∀ y ∈ ys, f x = f y → x = y) (heq : xs.map f = ys.map f) : xs = ys := by
  induction xs generalizing ys with
  | nil => exact (List.map_eq_nil_iff.1 heq.symm).symm
  | cons x xs ih =>
    cases ys with
    | nil => cases heq
    | cons y ys =>
      obtain ⟨hxy, hrest⟩ := List.cons.inj heq
      have hx : x = y := h x (List.mem_cons_self ..) y (List.mem_cons_self ..) hxy
      have hxs : xs = ys := ih (fun a ha b hb =>
        h a (List.mem_cons_of_mem x ha) b (List.mem_cons_of_mem y hb)) hrest
      rw [hx, hxs]

namespace Json

/-! ## Values and what they were made of -/

theorem ofParam_injective : Function.Injective ofParam := by
  rintro ⟨label, description⟩ ⟨label', description'⟩ h
  simp only [ofParam, object.injEq, List.cons.injEq, Prod.mk.injEq, string.injEq, true_and,
    and_true] at h
  rw [h.1, h.2]

theorem eq_of_returns_eq {r r' : Option Param}
    (h : r.toList.map (fun p => (("return" : Text), ofParam p)) =
      r'.toList.map fun p => (("return" : Text), ofParam p)) : r = r' := by
  cases r with
  | none =>
    cases r' with
    | none => rfl
    | some p' => cases h
  | some p =>
    cases r' with
    | none => cases h
    | some p' =>
      have hp : ofParam p = ofParam p' := (Prod.mk.inj (List.cons.inj h).1).2
      rw [ofParam_injective hp]

theorem ofMethod_inj {m m' : Method} (h : ofMethod m = ofMethod m')
    (hkind : m.owner.kind = m'.owner.kind) (hc : m.isConstructor = m'.isConstructor) : m = m' := by
  obtain ⟨name, description, params, returns, ⟨kind, owner⟩, isConstructor⟩ := m
  obtain ⟨name', description', params', returns', ⟨kind', owner'⟩, isConstructor'⟩ := m'
  simp only [ofMethod, object.injEq, List.cons.injEq, Prod.mk.injEq, string.injEq, array.injEq,
    true_and] at h
  obtain ⟨hdescription, -, hname, howner, hparams, hreturns⟩ := h
  have hparams' : params = params' := List.map_injective_iff.2 ofParam_injective hparams
  have hreturns' : returns = returns' := eq_of_returns_eq hreturns
  simp only at hkind hc
  rw [hname, hdescription, hparams', hreturns', hkind, howner, hc]

theorem ofMethod_ne_null (m : Method) : ofMethod m ≠ null := fun h => by cases h

theorem eq_of_stores {key : EntityKey} {n n' : Member} {m m' : Method} (h : n.Stores key m)
    (h' : n'.Stores key m') (hc : m.isConstructor = m'.isConstructor)
    (heq : ofMethod m = ofMethod m') : m = m' := by
  have howner : ∀ {n : Member} {m : Method}, n.Stores key m → m.owner = key := by
    intro n m hn
    cases n with
    | method name => exact hn.2.1
    | constructor => exact hn.2.1
  refine ofMethod_inj heq ?_ hc
  rw [howner h, howner h']

end Json

/-! ## Entities -/

namespace Entity.Consistent

variable {key key' : EntityKey} {e e' : Entity}

theorem constructor_eq (h : e.Consistent key) (h' : e'.Consistent key)
    (heq : (e.constructor.map Json.ofMethod).getD .null =
      (e'.constructor.map Json.ofMethod).getD .null) : e.constructor = e'.constructor := by
  cases hm : e.constructor with
  | none =>
    cases hm' : e'.constructor with
    | none => rfl
    | some m' =>
      rw [hm, hm'] at heq
      exact absurd heq.symm (Json.ofMethod_ne_null m')
  | some m =>
    cases hm' : e'.constructor with
    | none =>
      rw [hm, hm'] at heq
      exact absurd heq (Json.ofMethod_ne_null m)
    | some m' =>
      rw [hm, hm'] at heq
      have hs := h.members .constructor m hm
      have hs' := h'.members .constructor m' hm'
      rw [Json.eq_of_stores hs hs' (hs.2.2.1.trans hs'.2.2.1.symm) heq]

theorem methods_eq (h : e.Consistent key) (h' : e'.Consistent key)
    (heq : e.methodList.map Json.ofMethod = e'.methodList.map Json.ofMethod) :
    e.methods = e'.methods := by
  have hlist : e.methodList = e'.methodList := by
    refine eq_of_map_eq (fun m hm m' hm' hmm => ?_) heq
    obtain ⟨name, hname⟩ := Entity.mem_methodList.1 hm
    obtain ⟨name', hname'⟩ := Entity.mem_methodList.1 hm'
    have hs := h.members (.method name) m hname
    have hs' := h'.members (.method name') m' hname'
    exact Json.eq_of_stores hs hs' (hs.2.2.trans hs'.2.2.symm) hmm
  exact h.methods_storedByKey.eq_of_sort_eq h'.methods_storedByKey _ hlist

/-- An entity that tells its own place is determined by its JSON value. -/
theorem eq_of_ofEntity_eq (h : e.Consistent key) (h' : e'.Consistent key')
    (heq : Json.ofEntity e = Json.ofEntity e') : e = e' := by
  simp only [Json.ofEntity, Json.ofEntityWith, Json.object.injEq, List.cons.injEq, Prod.mk.injEq,
    Json.string.injEq, Json.array.injEq, true_and, and_true] at heq
  obtain ⟨-, hconstructor, hdescription, hsupertypes, htag, hlabel, hmethods⟩ := heq
  have hkind : e.kind = e'.kind := Kind.tag_injective htag
  have hkey : key = key' := by
    have hkeyKind : key.kind = key'.kind := by rw [← h.kind_eq, ← h'.kind_eq, hkind]
    have hkeyName : key.name = key'.name := by rw [← h.label_eq, ← h'.label_eq, hlabel]
    cases key
    cases key'
    simp_all
  -- From here on both have one key, so the owners of their members are of one kind.
  subst hkey
  have hname : e.name = e'.name := h.name_eq.trans h'.name_eq.symm
  have hsupertypes' : e.supertypes = e'.supertypes := by
    refine eq_of_map_eq (fun _ _ _ _ hs => ?_) hsupertypes
    injection hs
  have hconstructor' : e.constructor = e'.constructor := h.constructor_eq h' hconstructor
  have hmethods' : e.methods = e'.methods := h.methods_eq h' hmethods
  cases e
  cases e'
  simp_all

end Entity.Consistent

/-! ## Namespaces -/

namespace Builder

theorem Consistent.eq_of_ofNamespace_eq {b b' : Builder} (h : b.Consistent) (h' : b'.Consistent)
    (heq : Json.ofNamespace b.result = Json.ofNamespace b'.result) : b.result = b'.result := by
  simp only [Json.ofNamespace, Json.object.injEq, List.cons.injEq, Prod.mk.injEq,
    Json.array.injEq, true_and, and_true] at heq
  have hentities : b.result.entities = b'.result.entities := by
    refine eq_of_map_eq (fun e he e' he' hee => ?_) heq
    obtain ⟨key, hkey⟩ := Namespace.mem_entities.1 he
    obtain ⟨key', hkey'⟩ := Namespace.mem_entities.1 he'
    exact (h.stored key e hkey).eq_of_ofEntity_eq (h'.stored key' e' hkey') hee
  have htable : b.result.table = b'.result.table :=
    h.selfKeyed.entities.eq_of_sort_eq h'.selfKeyed.entities _ hentities
  exact Namespace.ext fun key => congrArg (fun table => table[key]?) htable

/-- Source texts whose JSON documentation is the same document the same. -/
theorem json_lossless (sources sources' : List Text) :
    Format.json.render (empty.readAll sources).1.result =
        Format.json.render (empty.readAll sources').1.result ↔
      (empty.readAll sources).1.result = (empty.readAll sources').1.result := by
  have hconsistent : ∀ texts, (empty.readAll texts).1.Consistent := fun texts =>
    (Reachable.empty.readAll texts).consistent
  constructor
  · intro h
    have hvalue := Json.document_injective h
    exact (hconsistent sources).eq_of_ofNamespace_eq (hconsistent sources') hvalue
  · intro h
    rw [h]

end Builder
end CommentDocs
