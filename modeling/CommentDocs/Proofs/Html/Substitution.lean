import CommentDocs.Format.Html
import CommentDocs.Proofs.Text.Replacement

/-!
# CommentDocs.Proofs.Html.Substitution

Replacing the symbols of a table one after the other. In a `Compatible` table, and the shorthands
are one (`compatible_symbols`), no symbol and no replacement can overlap a symbol, so each
occurrence of a symbol is replaced for itself, whatever stands around it
(`substituteBy_around_symbol`).

It follows that a text and the same text after some replacements are `Interchangeable`: they cannot
be told apart after the replacements, in any surroundings.
-/

namespace CommentDocs
namespace Html

abbrev SymbolTable := List (Text × Text)

/-- No symbol of the table occurs in the text, nor can one overlap it. -/
def Inert (table : SymbolTable) (w : Text) : Prop :=
  ∀ r ∈ table, Text.Apart r.1 w ∧ ¬r.1 <:+: w

/-- Symbols do not overlap themselves, each other or any replacement. -/
def Compatible (table : SymbolTable) : Prop :=
  ∀ r ∈ table, r.1 ≠ [] ∧ Text.Apart r.1 r.1 ∧ Inert table r.2 ∧
    ∀ s ∈ table, s ≠ r → Text.Apart s.1 r.1 ∧ ¬s.1 <:+: r.1

instance (table : SymbolTable) (w : Text) : Decidable (Inert table w) :=
  inferInstanceAs (Decidable (∀ r ∈ table, Text.Apart r.1 w ∧ ¬r.1 <:+: w))

instance (table : SymbolTable) : Decidable (Compatible table) :=
  inferInstanceAs (Decidable (∀ r ∈ table, r.1 ≠ [] ∧ Text.Apart r.1 r.1 ∧ Inert table r.2 ∧
    ∀ s ∈ table, s ≠ r → Text.Apart s.1 r.1 ∧ ¬s.1 <:+: r.1))

theorem compatible_symbols : Compatible symbols := by decide +kernel

theorem substituteBy_cons (r : Text × Text) (table : SymbolTable) (t : Text) :
    substituteBy (r :: table) t = substituteBy table (Text.replace r.1 r.2 t) := rfl

theorem substituteBy_induction {table : SymbolTable} {P : Text → Prop}
    (h : ∀ r ∈ table, ∀ t, P t → P (Text.replace r.1 r.2 t)) {t : Text} (ht : P t) :
    P (substituteBy table t) := by
  induction table generalizing t with
  | nil => exact ht
  | cons r table ih =>
    obtain ⟨hr, h⟩ := List.forall_mem_cons.1 h
    exact ih h (hr t ht)

theorem substituteBy_around_inert {table : SymbolTable} {w : Text}
    (hne : ∀ r ∈ table, r.1 ≠ []) (h : Inert table w) (a c : Text) :
    substituteBy table (a ++ w ++ c) = substituteBy table a ++ w ++ substituteBy table c := by
  induction table generalizing a c with
  | nil => rfl
  | cons r table ih =>
    obtain ⟨hr, hne⟩ := List.forall_mem_cons.1 hne
    obtain ⟨⟨hapart, hin⟩, h⟩ := List.forall_mem_cons.1 h
    rw [substituteBy_cons, Text.replace_around hr hapart, Text.replace_of_not_infix hin, ih hne h,
      substituteBy_cons, substituteBy_cons]

/-- A symbol is replaced by its own replacement, and the texts around it are replaced as if it were
not there. -/
theorem substituteBy_around_symbol {table : SymbolTable} (hc : Compatible table) {r : Text × Text}
    (hr : r ∈ table) (a c : Text) :
    substituteBy table (a ++ r.1 ++ c) = substituteBy table a ++ r.2 ++ substituteBy table c := by
  -- The induction is on the part of the table still to be gone through.
  have hpart : ∀ rules : SymbolTable, rules ⊆ table → r ∈ rules → ∀ a c,
      substituteBy rules (a ++ r.1 ++ c) = substituteBy rules a ++ r.2 ++ substituteBy rules c := by
    intro rules
    induction rules with
    | nil => intro _ hr; cases hr
    | cons s rules ih =>
      intro hsub hr a c
      obtain ⟨hs, hsub⟩ := List.cons_subset.1 hsub
      obtain ⟨hne, hself, hnew, _⟩ := hc s hs
      rw [substituteBy_cons, substituteBy_cons, substituteBy_cons]
      by_cases hsr : s = r
      · subst hsr
        have hreplaced : Text.replace s.1 s.2 s.1 = s.2 := by
          have := Text.replace_append_old hne s.2 []
          rwa [List.append_nil, Text.replace_nil, List.append_nil] at this
        rw [Text.replace_around hne hself, hreplaced]
        exact substituteBy_around_inert (fun q hq => (hc q (hsub hq)).1)
          (fun q hq => hnew q (hsub hq)) _ _
      · have hr' : r ∈ rules := (List.mem_cons.1 hr).resolve_left fun e => hsr e.symm
        obtain ⟨_, _, _, hother⟩ := hc r (hsub hr')
        obtain ⟨hapart, hin⟩ := hother s hs hsr
        rw [Text.replace_around hne hapart, Text.replace_of_not_infix hin]
        exact ih hsub hr' _ _
  exact hpart table (List.Subset.refl _) hr a c

/-! ## Texts that cannot be told apart -/

/-- After all replacements the two texts look alike in any surroundings. -/
def Interchangeable (table : SymbolTable) (x y : Text) : Prop :=
  ∀ a c, substituteBy table (a ++ x ++ c) = substituteBy table (a ++ y ++ c)

namespace Interchangeable

variable {table : SymbolTable} {x y z : Text}

theorem refl (x : Text) : Interchangeable table x x := fun _ _ => rfl

theorem trans (h : Interchangeable table x y) (h' : Interchangeable table y z) :
    Interchangeable table x z := fun a c => (h a c).trans (h' a c)

theorem append {x' y' : Text} (h : Interchangeable table x y) (h' : Interchangeable table x' y') :
    Interchangeable table (x ++ x') (y ++ y') := by
  intro a c
  have h1 := h a (x' ++ c)
  have h2 := h' (a ++ y) c
  simp only [List.append_assoc] at h1 h2 ⊢
  exact h1.trans h2

theorem flatMap {α : Type} {f g : α → Text} (xs : List α)
    (h : ∀ x ∈ xs, Interchangeable table (f x) (g x)) :
    Interchangeable table (xs.flatMap f) (xs.flatMap g) := by
  induction xs with
  | nil => exact refl []
  | cons x xs ih =>
    obtain ⟨hx, hxs⟩ := List.forall_mem_cons.1 h
    exact hx.append (ih hxs)

theorem intercalate {α : Type} {f g : α → Text} (separator : Text) (xs : List α)
    (h : ∀ x ∈ xs, Interchangeable table (f x) (g x)) :
    Interchangeable table (separator.intercalate (xs.map f))
      (separator.intercalate (xs.map g)) := by
  induction xs with
  | nil => exact refl []
  | cons x xs ih =>
    obtain ⟨hx, hxs⟩ := List.forall_mem_cons.1 h
    cases xs with
    | nil => simpa using hx
    | cons y xs =>
      simp only [List.map_cons, List.intercalate_cons_cons]
      exact (hx.append (refl separator)).append (ih hxs)

theorem eq (h : Interchangeable table x y) : substituteBy table x = substituteBy table y := by
  have := h [] []
  simpa using this

end Interchangeable

/-- An occurrence that is replaced early does not change what the replacements make of a text. -/
theorem interchangeable_replace {table : SymbolTable} (hc : Compatible table) {r : Text × Text}
    (hr : r ∈ table) (x : Text) : Interchangeable table (Text.replace r.1 r.2 x) x := by
  obtain ⟨hne, _, hnew, _⟩ := hc r hr
  induction x using Text.occurrence_induction hne with
  | nil => exact Interchangeable.refl []
  | hit x ih =>
    rw [Text.replace_append_old hne]
    refine Interchangeable.append ?_ ih
    intro a c
    rw [substituteBy_around_inert (fun q hq => (hc q hq).1) hnew, substituteBy_around_symbol hc hr]
  | char d x hd ih =>
    rw [Text.replace_cons hd]
    exact (Interchangeable.refl [d]).append ih

theorem interchangeable_substituteBy {table : SymbolTable} (hc : Compatible table) (x : Text) :
    Interchangeable table (substituteBy table x) x :=
  substituteBy_induction (P := fun t => Interchangeable table t x)
    (fun _ hr t ht => (interchangeable_replace hc hr t).trans ht) (Interchangeable.refl x)

end Html
end CommentDocs
