import CommentDocs.Format.Json

/-!
# CommentDocs.Proofs.Json.Printing

The printed form of a JSON value can be read in one way only, whatever stands behind it:
`legible_pretty`, and from it `document_injective` for whole documents.

Legibility goes from the parts to the whole. A list of legible parts can be read up to a stop with
which no part begins (`flatMap_append_inj`); this serves for the characters of a string up to the
closing quote, and for the items between brackets up to the line of the closing bracket.
-/

namespace CommentDocs

/-- No other value is printed as a text that begins with the printed form of `a`, or that begins
that form. -/
def Legible {α : Type} (print : α → Text) (a : α) : Prop :=
  ∀ b s t, print a ++ s = print b ++ t → a = b ∧ s = t

section Legible

variable {α β : Type} {print : α → Text} {a : α}

theorem Legible.after (h : Legible print a) (front : Text) :
    Legible (fun a => front ++ print a) a := by
  intro b s t heq
  simp only [List.append_assoc] at heq
  exact h b s t (List.append_cancel_left heq)

theorem Legible.pair {print' : β → Text} {b : β} (ha : Legible print a) (hb : Legible print' b)
    (middle : Text) : Legible (fun p : α × β => print p.1 ++ middle ++ print' p.2) (a, b) := by
  rintro ⟨c, d⟩ s t heq
  simp only [List.append_assoc] at heq
  obtain ⟨rfl, hrest⟩ := ha c _ _ heq
  obtain ⟨rfl, hst⟩ := hb d s t (List.append_cancel_left hrest)
  exact ⟨rfl, hst⟩

theorem flatMap_append_inj {stop s t : Text} {xs ys : List α} (h : ∀ x ∈ xs, Legible print x)
    (hstop : ∀ x u v, print x ++ u ≠ stop ++ v)
    (heq : xs.flatMap print ++ (stop ++ s) = ys.flatMap print ++ (stop ++ t)) :
    xs = ys ∧ s = t := by
  induction xs generalizing ys with
  | nil =>
    cases ys with
    | nil => exact ⟨rfl, List.append_cancel_left heq⟩
    | cons y ys =>
      rw [List.flatMap_nil, List.nil_append, List.flatMap_cons, List.append_assoc] at heq
      exact absurd heq.symm (hstop y _ _)
  | cons x xs ih =>
    rw [List.flatMap_cons, List.append_assoc] at heq
    cases ys with
    | nil => exact absurd heq (hstop x _ _)
    | cons y ys =>
      rw [List.flatMap_cons, List.append_assoc] at heq
      obtain ⟨rfl, hrest⟩ := h x (List.mem_cons_self ..) y _ _ heq
      obtain ⟨rfl, hst⟩ := ih (fun z hz => h z (List.mem_cons_of_mem x hz)) hrest
      exact ⟨rfl, hst⟩

end Legible

namespace Json

/-! ## Strings -/

/-- The characters that stand in a string only behind a backslash. -/
def escaped : List Char := '"' :: '\\' :: (List.range 0x20).map Char.ofNat

theorem stringChar_of_not_escaped {c : Char} (h : c ∉ escaped) : stringChar c = [c] := by
  have hcode : ¬c.toNat < 0x20 := by
    intro hc
    apply h
    refine List.mem_cons_of_mem _ (List.mem_cons_of_mem _ (List.mem_map.2 ⟨c.toNat, ?_, ?_⟩))
    · exact List.mem_range.2 hc
    · exact Char.ofNat_toNat c
  unfold stringChar
  split
  case h_8 => rw [if_neg hcode]
  all_goals exact absurd (by decide) h

theorem head_stringChar (c : Char) :
    (stringChar c).head? = some (if c ∈ escaped then '\\' else c) := by
  have hescaped : escaped.all (fun c => (stringChar c).head? = some '\\') = true := by decide
  by_cases hc : c ∈ escaped
  · rw [if_pos hc]
    simpa using List.all_eq_true.1 hescaped c hc
  · rw [if_neg hc, stringChar_of_not_escaped hc]
    rfl

theorem eq_of_escape_begins {c d : Char} (hc : c ∈ escaped) (hd : d ∈ escaped)
    (h : stringChar c <+: stringChar d) : c = d := by
  have hall : escaped.all (fun c => escaped.all fun d =>
      decide (stringChar c <+: stringChar d → c = d)) = true := by decide +kernel
  have hcd := List.all_eq_true.1 (List.all_eq_true.1 hall c hc) d hd
  exact of_decide_eq_true hcd h

theorem eq_of_stringChar_append_eq {c d : Char} {s t : Text}
    (heq : stringChar c ++ s = stringChar d ++ t) : c = d := by
  have hback : '\\' ∈ escaped := by decide
  have hhead := congrArg List.head? heq
  simp only [List.head?_append, head_stringChar, Option.some_or, Option.some.injEq] at hhead
  by_cases hc : c ∈ escaped
  · by_cases hd : d ∈ escaped
    · -- Of two escapes with the same text behind them one begins the other.
      have hbegins : stringChar d <+: stringChar c ++ s := heq ▸ List.prefix_append _ t
      rcases List.prefix_or_prefix_of_prefix (List.prefix_append _ s) hbegins with h | h
      · exact eq_of_escape_begins hc hd h
      · exact (eq_of_escape_begins hd hc h).symm
    · rw [if_pos hc, if_neg hd] at hhead
      exact absurd (hhead ▸ hback) hd
  · by_cases hd : d ∈ escaped
    · rw [if_neg hc, if_pos hd] at hhead
      exact absurd (hhead ▸ hback) hc
    · rwa [if_neg hc, if_neg hd] at hhead

theorem legible_stringChar (c : Char) : Legible stringChar c := by
  intro d s t heq
  have hcd := eq_of_stringChar_append_eq heq
  subst hcd
  exact ⟨rfl, List.append_cancel_left heq⟩

theorem legible_stringText (t : Text) : Legible stringText t := by
  have hstop : ∀ (c : Char) (u v : Text), stringChar c ++ u ≠ ['"'] ++ v := by
    intro c u v heq
    have hquote : '"' ∈ escaped := by decide
    have hhead := congrArg List.head? heq
    rw [List.head?_append, head_stringChar] at hhead
    by_cases hc : c ∈ escaped
    · simp [hc] at hhead
    · rw [if_neg hc] at hhead
      have hcq : c = '"' := by simpa using hhead
      exact hc (hcq ▸ hquote)
  intro u s s' heq
  simp only [stringText, List.append_assoc] at heq
  exact flatMap_append_inj (fun c _ => legible_stringChar c) hstop (List.append_cancel_left heq)

/-! ## Items between brackets -/

theorem intercalate_comma_cons (i : Text) (items : List Text) :
    List.intercalate "," (i :: items) = i ++ items.flatMap fun j => ',' :: j := by
  induction items generalizing i with
  | nil => simp
  | cons j items ih =>
    rw [List.intercalate_cons_cons, ih, List.flatMap_cons, List.append_assoc]
    rfl

def nextItem (depth : Nat) (item : Text) : Text := ',' :: (newline (depth + 1) ++ item)

theorem block_cons (left right : Char) (depth : Nat) (i : Text) (items : List Text) :
    block left right depth (i :: items) = left :: (newline (depth + 1) ++ (i ++
      (items.flatMap (nextItem depth) ++ (newline depth ++ [right])))) := by
  have hnext : nextItem depth = fun j => ',' :: (newline (depth + 1) ++ j) := rfl
  rw [block, List.map_cons, intercalate_comma_cons, List.flatMap_map, hnext]
  · simp only [List.cons_append, List.append_assoc]
  · simp

theorem legible_block {α : Type} {print : α → Text} {left right : Char} (hright : right ≠ '\n')
    (depth : Nat) {xs : List α} (h : ∀ x ∈ xs, Legible print x) :
    Legible (fun xs => block left right depth (xs.map print)) xs := by
  intro ys s t heq
  dsimp only at heq
  cases xs with
  | nil =>
    cases ys with
    | nil => exact ⟨rfl, List.append_cancel_left heq⟩
    | cons y ys =>
      rw [List.map_cons, block_cons] at heq
      have hnewline : right = '\n' := by injection (List.cons.inj heq).2
      exact absurd hnewline hright
  | cons x xs =>
    rw [List.map_cons, block_cons] at heq
    cases ys with
    | nil =>
      have hnewline : '\n' = right := by injection (List.cons.inj heq).2
      exact absurd hnewline.symm hright
    | cons y ys =>
      rw [List.map_cons, block_cons] at heq
      simp only [List.cons_append, List.append_assoc, List.flatMap_map] at heq
      have hitems := List.append_cancel_left (List.cons.inj heq).2
      obtain ⟨rfl, hrest⟩ := h x (List.mem_cons_self ..) y _ _ hitems
      have hnext : ∀ z ∈ xs, Legible (fun z => nextItem depth (print z)) z := by
        intro z hz
        exact (h z (List.mem_cons_of_mem x hz)).after (',' :: newline (depth + 1))
      have hstop : ∀ (z : α) (u v : Text), nextItem depth (print z) ++ u ≠ newline depth ++ v := by
        intro z u v hz
        injection hz with hcomma
        exact absurd hcomma (by decide)
      obtain ⟨rfl, hst⟩ := flatMap_append_inj hnext hstop hrest
      exact ⟨rfl, (List.cons.inj hst).2⟩

/-! ## Values -/

theorem value_induction {P : Json → Prop} (null : P null) (string : ∀ t, P (string t))
    (array : ∀ items, (∀ v ∈ items, P v) → P (array items))
    (object : ∀ fields, (∀ f ∈ fields, P f.2) → P (object fields)) (v : Json) : P v := by
  refine @Json.rec P (fun items => ∀ v ∈ items, P v) (fun fields => ∀ f ∈ fields, P f.2)
    (fun f => P f.2) null string array object ?_ ?_ ?_ ?_ ?_ v
  · intro v hv
    cases hv
  · intro v items hv hitems w hw
    rcases List.mem_cons.1 hw with rfl | hw
    · exact hv
    · exact hitems w hw
  · intro f hf
    cases hf
  · intro f fields hf hfields g hg
    rcases List.mem_cons.1 hg with rfl | hg
    · exact hf
    · exact hfields g hg
  · intro _ _ hv
    exact hv

def prettyField (depth : Nat) (f : Text × Json) : Text :=
  stringText f.1 ++ ": " ++ pretty depth f.2

theorem prettyItems_eq_map (depth : Nat) (items : List Json) :
    prettyItems depth items = items.map (pretty depth) := by
  induction items with
  | nil => rfl
  | cons v items ih => rw [prettyItems, ih, List.map_cons]

theorem prettyFields_eq_map (depth : Nat) (fields : List (Text × Json)) :
    prettyFields depth fields = fields.map (prettyField depth) := by
  induction fields with
  | nil => rfl
  | cons f fields ih => rw [prettyFields, ih, List.map_cons, prettyField]

def mark : Json → Char
  | .null => 'n'
  | .string _ => '"'
  | .array _ => '['
  | .object _ => '\x7b'

theorem head_block (left right : Char) (depth : Nat) (items : List Text) :
    (block left right depth items).head? = some left := by
  cases items with
  | nil => rfl
  | cons i items => rw [block_cons, List.head?_cons]

theorem head_pretty (depth : Nat) (v : Json) : (pretty depth v).head? = some v.mark := by
  cases v with
  | null => rfl
  | string t => rfl
  | array items => rw [pretty, head_block, mark]
  | object fields => rw [pretty, head_block, mark]

theorem mark_eq_of_append_eq {depth : Nat} {v w : Json} {s t : Text}
    (h : pretty depth v ++ s = pretty depth w ++ t) : v.mark = w.mark := by
  have hhead := congrArg List.head? h
  simpa [List.head?_append, head_pretty] using hhead

theorem legible_pretty (v : Json) : ∀ depth, Legible (pretty depth) v := by
  -- By induction on the value for all depths at once: what is inside stands one level deeper.
  induction v using value_induction with
  | null =>
    intro depth w s t heq
    have hmark := mark_eq_of_append_eq heq
    cases w with
    | null => exact ⟨rfl, List.append_cancel_left heq⟩
    | _ => simp [mark] at hmark
  | string u =>
    intro depth w s t heq
    have hmark := mark_eq_of_append_eq heq
    cases w with
    | string u' =>
      obtain ⟨rfl, hst⟩ := legible_stringText u u' s t heq
      exact ⟨rfl, hst⟩
    | _ => simp [mark] at hmark
  | array items ih =>
    intro depth w s t heq
    have hmark := mark_eq_of_append_eq heq
    cases w with
    | array items' =>
      rw [pretty, pretty, prettyItems_eq_map, prettyItems_eq_map] at heq
      have hitems : ∀ v ∈ items, Legible (pretty (depth + 1)) v := fun v hv => ih v hv (depth + 1)
      obtain ⟨rfl, hst⟩ := legible_block (by decide) depth hitems items' s t heq
      exact ⟨rfl, hst⟩
    | _ => simp [mark] at hmark
  | object fields ih =>
    intro depth w s t heq
    have hmark := mark_eq_of_append_eq heq
    cases w with
    | object fields' =>
      rw [pretty, pretty, prettyFields_eq_map, prettyFields_eq_map] at heq
      have hfields : ∀ f ∈ fields, Legible (prettyField (depth + 1)) f := fun f hf =>
        (legible_stringText f.1).pair (ih f hf (depth + 1)) ": "
      obtain ⟨rfl, hst⟩ := legible_block (by decide) depth hfields fields' s t heq
      exact ⟨rfl, hst⟩
    | _ => simp [mark] at hmark

theorem document_injective : Function.Injective document := by
  intro v w h
  exact (legible_pretty v 0 w _ _ h).1

end Json
end CommentDocs
