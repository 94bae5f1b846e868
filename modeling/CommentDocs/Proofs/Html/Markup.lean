import CommentDocs.Format.Anchor
import CommentDocs.Proofs.Html.Substitution
import CommentDocs.Proofs.Text.Lines

/-!
# CommentDocs.Proofs.Html.Markup

What a page may consist of: plain characters, a few character references, and tags from a fixed
list, two of which have an anchor in them. `Markup` says that a text is a sequence of such tokens.

A token ends where its closing character says so, hence a text falls into tokens in only one way
(`Token.append_inj`), and a sequence of tokens may be taken away from the front of another
(`Markup.of_append`). In markup a `<` always opens a known tag and a `&` a known reference
(`Markup.tag_at`, `Markup.reference_at`). A shorthand is a sequence of tokens and starts in no
reference and no tag, so replacing it leads from markup to markup (`Markup.substitute`).
-/

namespace CommentDocs
namespace Html

/-! ## Tokens -/

def IsPlain (c : Char) : Prop := c ≠ '<' ∧ c ≠ '>' ∧ c ≠ '&'

def references : List Text := ["&amp;", "&#60;", "&#62;", "&larr;", "&rarr;"]

def pageTags : List Text :=
  ["<!DOCTYPE html>", "<html>", "<head>", "<meta charset=\"utf-8\">",
    "<link rel=\"stylesheet\" href=\"style.css\" type=\"text/css\" />", "</head>", "<body>",
    "<nav>", "</nav>", "</body>", "</html>"]

def nodeTags : List Text :=
  ["</article>", "<section>", "</section>", "<h1>", "</h1>", "<h2>", "</h2>", "<p>",
    "</p>", "</div>"]

def divisionTags : List Text :=
  ["<div class=\"everything\">", "<div class=\"extends\">", "<div class=\"method_desc\">",
    "<div class=\"param\">", "<div class=\"param_type\">", "<div class=\"param_desc\">",
    "<div class=\"return\">", "<div class=\"return_type\">", "<div class=\"return_desc\">"]

def indexTags : List Text := ["<ul class=\"index\">", "<li>", "</a>", "</li>", "</ul>"]

def shorthandTags : List Text :=
  ["<code>", "</code>", "<p>", "</p>", "<a href=\"\">", "</a>"]

def fixedTags : List Text :=
  pageTags ++ nodeTags ++ divisionTags ++ indexTags ++ shorthandTags

/-- Only letters, digits and hyphens. -/
def IsAnchor (t : Text) : Prop := ∀ c ∈ t, Text.isAlphanumeric c ∨ c = '-'

instance (t : Text) : Decidable (IsAnchor t) :=
  List.decidableBAll (fun c => Text.isAlphanumeric c ∨ c = '-') t

inductive IsTag : Text → Prop where
  | fixed {x : Text} : x ∈ fixedTags → IsTag x
  | article {anchor : Text} (kind : Kind) : IsAnchor anchor →
      IsTag ("<article id=\"" ++ anchor ++ "\" class=\"" ++ kind.tag ++ "\">")
  | link {anchor : Text} : IsAnchor anchor → IsTag ("<a href=\"#" ++ anchor ++ "\">")

inductive Token : Text → Prop where
  | char {c : Char} : IsPlain c → Token [c]
  | reference {x : Text} : x ∈ references → Token x
  | tag {x : Text} : IsTag x → Token x

inductive Markup : Text → Prop where
  | nil : Markup []
  | cons {x t : Text} : Token x → Markup t → Markup (x ++ t)

/-! ## Where a token ends -/

/-- The characters by which tokens are told apart, and the one that opens a shorthand. -/
def reserved : Text := "<>&;["

def Free (t : Text) : Prop := ∀ c ∈ t, c ∉ reserved

instance (t : Text) : Decidable (Free t) := List.decidableBAll (fun c => c ∉ reserved) t

theorem Free.append {s t : Text} (hs : Free s) (ht : Free t) : Free (s ++ t) := by
  intro c hc
  rcases List.mem_append.1 hc with hc | hc
  · exact hs c hc
  · exact ht c hc

/-- The text has one character at its start, another at its end, and no reserved ones between. -/
def Delimited (first last : Char) (x : Text) : Prop := ∃ u, x = first :: (u ++ [last]) ∧ Free u

theorem Delimited.append_inj {first last : Char} {x y s t : Text} (hl : last ∈ reserved)
    (hx : Delimited first last x) (hy : Delimited first last y) (h : x ++ s = y ++ t) :
    x = y ∧ s = t := by
  obtain ⟨u, rfl, hu⟩ := hx
  obtain ⟨v, rfl, hv⟩ := hy
  simp only [List.cons_append, List.append_assoc, List.nil_append, List.cons.injEq,
    true_and] at h
  have hu' : last ∉ u := fun hm => hu last hm hl
  have hv' : last ∉ v := fun hm => hv last hm hl
  have hx : Text.splitOnce last (u ++ last :: s) = some (u, s) :=
    Text.splitOnce_eq_some.2 ⟨rfl, hu'⟩
  have hy : Text.splitOnce last (u ++ last :: s) = some (v, t) :=
    Text.splitOnce_eq_some.2 ⟨h, hv'⟩
  obtain ⟨rfl, rfl⟩ := Prod.mk.inj (Option.some.inj (hx.symm.trans hy))
  exact ⟨rfl, rfl⟩

theorem reference_delimited {x : Text} (h : x ∈ references) : Delimited '&' ';' x := by
  have hall : ∀ x ∈ references, x = '&' :: (x.tail.dropLast ++ [';']) ∧ Free x.tail.dropLast := by
    decide
  exact ⟨_, hall x h⟩

theorem fixedTag_delimited {x : Text} (h : x ∈ fixedTags) : Delimited '<' '>' x := by
  have hall : ∀ x ∈ fixedTags, x = '<' :: (x.tail.dropLast ++ ['>']) ∧ Free x.tail.dropLast := by
    decide
  exact ⟨_, hall x h⟩

theorem IsAnchor.free {t : Text} (h : IsAnchor t) : Free t := by
  intro c hc hr
  have hall : reserved.all fun c => !(Text.isAlphanumeric c || c = '-') := by decide
  have hout := List.all_eq_true.1 hall c hr
  simp only [Bool.not_eq_true', Bool.or_eq_false_iff, decide_eq_false_iff_not] at hout
  rcases h c hc with h | h
  · rw [hout.1] at h; cases h
  · exact hout.2 h

theorem IsTag.delimited {x : Text} (h : IsTag x) : Delimited '<' '>' x := by
  cases h with
  | fixed h => exact fixedTag_delimited h
  | @article anchor kind h =>
    refine ⟨"article id=\"" ++ anchor ++ "\" class=\"" ++ kind.tag ++ "\"", by simp, ?_⟩
    have hkind : Free kind.tag := by cases kind <;> decide
    have h1 : Free "article id=\"" := by decide
    have h2 : Free "\" class=\"" := by decide
    have h3 : Free "\"" := by decide
    exact (((h1.append h.free).append h2).append hkind).append h3
  | @link anchor h =>
    refine ⟨"a href=\"#" ++ anchor ++ "\"", by simp, ?_⟩
    have h1 : Free "a href=\"#" := by decide
    have h2 : Free "\"" := by decide
    exact (h1.append h.free).append h2

theorem Token.append_inj {x y s t : Text} (hx : Token x) (hy : Token y) (h : x ++ s = y ++ t) :
    x = y ∧ s = t := by
  cases hx with
  | char hc =>
    cases hy with
    | char hd => simpa using h
    | reference hy =>
      obtain ⟨v, rfl, _⟩ := reference_delimited hy
      exact absurd (List.cons.inj h).1 hc.2.2
    | tag hy =>
      obtain ⟨v, rfl, _⟩ := hy.delimited
      exact absurd (List.cons.inj h).1 hc.1
  | reference hx =>
    cases hy with
    | char hd =>
      obtain ⟨u, rfl, _⟩ := reference_delimited hx
      exact absurd (List.cons.inj h).1.symm hd.2.2
    | reference hy =>
      exact (reference_delimited hx).append_inj (by decide) (reference_delimited hy) h
    | tag hy =>
      obtain ⟨u, rfl, _⟩ := reference_delimited hx
      obtain ⟨v, rfl, _⟩ := hy.delimited
      exact absurd (List.cons.inj h).1 (by decide)
  | tag hx =>
    cases hy with
    | char hd =>
      obtain ⟨u, rfl, _⟩ := hx.delimited
      exact absurd (List.cons.inj h).1.symm hd.1
    | reference hy =>
      obtain ⟨u, rfl, _⟩ := hx.delimited
      obtain ⟨v, rfl, _⟩ := reference_delimited hy
      exact absurd (List.cons.inj h).1 (by decide)
    | tag hy => exact hx.delimited.append_inj (by decide) hy.delimited h

theorem Token.ne_nil {x : Text} (h : Token x) : x ≠ [] := by
  cases h with
  | char hc => exact List.cons_ne_nil _ _
  | reference h => obtain ⟨u, rfl, _⟩ := reference_delimited h; exact List.cons_ne_nil _ _
  | tag h => obtain ⟨u, rfl, _⟩ := h.delimited; exact List.cons_ne_nil _ _

/-! ## Sequences of tokens -/

namespace Markup

variable {s t x : Text}

theorem token (h : Token x) : Markup x := by
  have := Markup.cons h .nil
  rwa [List.append_nil] at this

theorem append (hs : Markup s) (ht : Markup t) : Markup (s ++ t) := by
  induction hs with
  | nil => exact ht
  | cons hx _ ih =>
    rw [List.append_assoc]
    exact .cons hx ih

theorem flatMap {α : Type} {f : α → Text} (xs : List α) (h : ∀ x ∈ xs, Markup (f x)) :
    Markup (xs.flatMap f) :=
  Text.flatMap_induction .nil (fun _ _ hs ht => hs.append ht) h

theorem intercalate {separator : Text} (hs : Markup separator) (ts : List Text)
    (h : ∀ t ∈ ts, Markup t) : Markup (separator.intercalate ts) :=
  Text.intercalate_induction .nil (fun _ _ hs ht => hs.append ht) hs h

theorem of_append_token (hx : Token x) (h : Markup (x ++ t)) : Markup t := by
  generalize hs : x ++ t = s at h
  cases h with
  | nil => exact absurd (List.append_eq_nil_iff.1 hs).1 hx.ne_nil
  | cons hy ht =>
    obtain ⟨_, rfl⟩ := hx.append_inj hy hs
    exact ht

theorem of_append (hs : Markup s) (h : Markup (s ++ t)) : Markup t := by
  induction hs with
  | nil => exact h
  | cons hx _ ih =>
    rw [List.append_assoc] at h
    exact ih (of_append_token hx h)

end Markup

/-! ## What the characters of markup stand for -/

theorem Token.eq_nil_of_opens {x a c : Text} {o : Char} (ho : o = '<' ∨ o = '&')
    (hx : Token x) (h : x = a ++ o :: c) : a = [] := by
  have hdelimited : ∀ first last, Delimited first last x → last = '>' ∨ last = ';' → a = [] := by
    intro first last hd hlast
    obtain ⟨u, hu, hfree⟩ := hd
    cases a with
    | nil => rfl
    | cons b a =>
      rw [hu] at h
      have hmem : o ∈ u ++ [last] := by
        rw [(List.cons.inj h).2]
        exact List.mem_append_right a List.mem_cons_self
      rcases List.mem_append.1 hmem with hm | hm
      · refine absurd ?_ (hfree o hm)
        rcases ho with rfl | rfl <;> decide
      · have hm := List.mem_singleton.1 hm
        rcases ho with rfl | rfl <;> rcases hlast with rfl | rfl <;> cases hm
  cases hx with
  | char hc =>
    cases a with
    | nil => rfl
    | cons b a => simp at h
  | reference hx => exact hdelimited _ _ (reference_delimited hx) (.inr rfl)
  | tag hx => exact hdelimited _ _ hx.delimited (.inl rfl)

theorem Markup.token_at {t a c : Text} {o : Char} (ho : o = '<' ∨ o = '&') (h : Markup t)
    (ht : t = a ++ o :: c) : ∃ x, Token x ∧ x <+: o :: c := by
  induction h generalizing a with
  | nil => simp at ht
  | @cons x s hx _ ih =>
    rcases List.append_eq_append_iff.1 ht with ⟨a', rfl, hs⟩ | ⟨c', hx', hc⟩
    · exact ih hs
    · cases c' with
      | nil => exact ih (a := []) hc.symm
      | cons d c' =>
        obtain ⟨rfl, rfl⟩ := List.cons.inj hc
        have ha : a = [] := hx.eq_nil_of_opens ho hx'
        subst ha
        rw [List.nil_append] at hx'
        subst hx'
        exact ⟨_, hx, List.prefix_append _ _⟩

theorem Markup.tag_at {a c : Text} (h : Markup (a ++ '<' :: c)) :
    ∃ x, IsTag x ∧ x <+: '<' :: c := by
  obtain ⟨x, hx, hp⟩ := h.token_at (.inl rfl) rfl
  cases hx with
  | char hc => exact absurd (List.cons_prefix_cons.1 hp).1 hc.1
  | reference hx =>
    obtain ⟨u, rfl, _⟩ := reference_delimited hx
    exact absurd (List.cons_prefix_cons.1 hp).1 (by decide)
  | tag hx => exact ⟨x, hx, hp⟩

theorem Markup.reference_at {a c : Text} (h : Markup (a ++ '&' :: c)) :
    ∃ x ∈ references, x <+: '&' :: c := by
  obtain ⟨x, hx, hp⟩ := h.token_at (.inr rfl) rfl
  cases hx with
  | char hc => exact absurd (List.cons_prefix_cons.1 hp).1 hc.2.2
  | reference hx => exact ⟨x, hx, hp⟩
  | tag hx =>
    obtain ⟨u, rfl, _⟩ := hx.delimited
    exact absurd (List.cons_prefix_cons.1 hp).1 (by decide)

/-! ## Markup without parameters -/

/-- Reads a text token by token; `open` is the front of the token that is being read. -/
def reads : Text → Text → Bool
  | [], [] => true
  | _ :: _, [] => false
  | [], c :: t =>
    if c = '<' ∨ c = '&' then reads [c] t else c ≠ '>' && reads [] t
  | d :: token, c :: t =>
    if c = '>' ∨ c = ';' then (references ++ fixedTags).contains (d :: token ++ [c]) && reads [] t
    else reads (d :: token ++ [c]) t

theorem reads_induction {P : Text → Prop} (nil : P [])
    (char : ∀ c t, IsPlain c → P t → P (c :: t))
    (closed : ∀ x ∈ references ++ fixedTags, ∀ t, P t → P (x ++ t)) {token t : Text}
    (h : reads token t) : P (token ++ t) := by
  induction t generalizing token with
  | nil =>
    cases token with
    | nil => exact nil
    | cons c token => cases h
  | cons c t ih =>
    cases token with
    | nil =>
      rw [reads] at h
      split at h
      · exact ih h
      · rename_i hc
        rw [Bool.and_eq_true, decide_eq_true_eq] at h
        exact char c t ⟨fun e => hc (.inl e), h.1, fun e => hc (.inr e)⟩ (ih h.2)
    | cons d token =>
      rw [reads] at h
      split at h
      · rw [Bool.and_eq_true, List.contains_iff_mem] at h
        have := closed _ h.1 t (ih h.2)
        rwa [List.append_assoc] at this
      · have := ih h
        rwa [List.append_assoc] at this

theorem Markup.of_reads {t : Text} (h : reads [] t) : Markup t := by
  refine reads_induction .nil (fun c t hc ht => .cons (.char hc) ht) ?_ h
  intro x hx t ht
  rcases List.mem_append.1 hx with hx | hx
  · exact .cons (.reference hx) ht
  · exact .cons (.tag (.fixed hx)) ht

/-! ## Shorthands -/

theorem symbol_startsNowhere_reference {r : Text × Text} (hr : r ∈ symbols) {x : Text}
    (hx : x ∈ references) : Text.StartsNowhere r.1 x := by
  have hsymbols : ∀ r ∈ symbols, r.1 = r.1.headD ' ' :: r.1.tail ∧
      ∀ x ∈ references, r.1.headD ' ' ∉ x := by decide
  obtain ⟨hcons, hhead⟩ := hsymbols r hr
  rw [hcons]
  exact Text.startsNowhere_of_head (hhead x hx)

theorem symbol_startsNowhere_tag {r : Text × Text} (hr : r ∈ symbols) {x : Text} (hx : IsTag x) :
    Text.StartsNowhere r.1 x := by
  have hsymbols : ∀ r ∈ symbols, '>' ∉ r.1 ∧ ('&' ∈ r.1 ∨ '[' ∈ r.1) := by decide
  obtain ⟨hclose, hinside⟩ := hsymbols r hr
  obtain ⟨u, rfl, hu⟩ := hx.delimited
  have hout : ∀ e ∈ reserved, e ≠ '<' → e ≠ '>' → e ∉ '<' :: u ++ ['>'] := by
    intro e he hl hg hm
    rcases List.mem_append.1 hm with hm | hm
    · rcases List.mem_cons.1 hm with hm | hm
      · exact hl hm
      · exact hu e hm he
    · exact hg (List.mem_singleton.1 hm)
  rcases hinside with h | h
  · exact Text.startsNowhere_of_last (u := '<' :: u) hclose h
      (hout _ (by decide) (by decide) (by decide))
  · exact Text.startsNowhere_of_last (u := '<' :: u) hclose h
      (hout _ (by decide) (by decide) (by decide))

theorem symbols_read : ∀ r ∈ symbols, r.1 ≠ [] ∧ reads [] r.1 ∧ reads [] r.2 := by decide

theorem symbol_markup {r : Text × Text} (hr : r ∈ symbols) :
    r.1 ≠ [] ∧ Markup r.1 ∧ Markup r.2 := by
  obtain ⟨hne, hold, hnew⟩ := symbols_read r hr
  exact ⟨hne, .of_reads hold, .of_reads hnew⟩

theorem replace_symbol_token {r : Text × Text} (hr : r ∈ symbols) {x t : Text} (hx : Token x)
    (hp : ¬r.1 <+: x ++ t) : Text.replace r.1 r.2 (x ++ t) = x ++ Text.replace r.1 r.2 t := by
  cases hx with
  | char hc => exact Text.replace_cons hp r.2
  | reference hx =>
    exact Text.replace_append_of_startsNowhere (symbol_startsNowhere_reference hr hx) r.2 t
  | tag hx => exact Text.replace_append_of_startsNowhere (symbol_startsNowhere_tag hr hx) r.2 t

namespace Markup

variable {t : Text}

/-- Replacing a shorthand runs over markup by its occurrences and the tokens between them. -/
theorem replace_induction {r : Text × Text} (hr : r ∈ symbols) {P : Text → Text → Prop}
    (nil : P [] []) (hit : ∀ s t, P s t → P (r.1 ++ s) (r.2 ++ t))
    (token : ∀ x s t, Token x → P s t → P (x ++ s) (x ++ t)) (h : Markup t) :
    P t (Text.replace r.1 r.2 t) := by
  obtain ⟨hne, hold, _⟩ := symbol_markup hr
  -- The induction is on the length, since an occurrence may take many tokens at once.
  induction hn : t.length using Nat.strongRecOn generalizing t with
  | ind n ih =>
    by_cases hp : r.1 <+: t
    · obtain ⟨s, rfl⟩ := hp
      have hpos := List.length_pos_iff.2 hne
      rw [List.length_append] at hn
      rw [Text.replace_append_old hne]
      exact hit s _ (ih s.length (by omega) (of_append hold h) rfl)
    · cases h with
      | nil => exact nil
      | @cons x s hx hs =>
        have hpos := List.length_pos_iff.2 hx.ne_nil
        rw [List.length_append] at hn
        rw [replace_symbol_token hr hx hp]
        exact token x s _ hx (ih s.length (by omega) hs rfl)

theorem replace_symbol {r : Text × Text} (hr : r ∈ symbols) (h : Markup t) :
    Markup (Text.replace r.1 r.2 t) := by
  obtain ⟨_, _, hnew⟩ := symbol_markup hr
  exact replace_induction (P := fun _ t => Markup t) hr .nil (fun _ _ ht => hnew.append ht)
    (fun _ _ _ hx ht => .cons hx ht) h

/-- Replacing the shorthands of markup makes markup. -/
theorem substitute (h : Markup t) : Markup (substitute t) :=
  substituteBy_induction (fun _ hr _ ht => replace_symbol hr ht) h

end Markup

/-! ## Escapes and anchors -/

theorem markup_escape (t : Text) : Markup (escape t) := by
  refine Markup.flatMap t fun c _ => ?_
  unfold escapeChar
  split
  · exact .token (.reference (by decide))
  · exact .token (.reference (by decide))
  · exact .token (.reference (by decide))
  · rename_i h1 h2 h3
    exact .token (.char ⟨h2, h3, h1⟩)

theorem isAnchor_anchor (e : Entity) : IsAnchor e.anchor := by
  have hkind : IsAnchor e.kind.tag := by cases e.kind <;> decide
  have hslug : IsAnchor (Text.slug e.displayName) := by
    intro c hc
    obtain ⟨d, hd, rfl⟩ := List.mem_map.1 hc
    have hd := (List.mem_filter.1 hd).2
    split
    · exact .inr rfl
    · rename_i hne
      simpa [hne] using hd
  intro c hc
  rcases List.mem_append.1 hc with hc | hc
  · rcases List.mem_append.1 hc with hc | hc
    · exact hkind c hc
    · exact .inr (List.mem_singleton.1 hc)
  · exact hslug c hc

end Html
end CommentDocs
