import CommentDocs.Proofs.Html.Safety
import Mathlib.Data.List.Infix

/-!
# CommentDocs.Proofs.Html.Probe

Reading markup by looking for the start of a tag, as one would search for `<article id="`. A `Probe`
is the text that is looked for and what is read of a tag that starts with it; `Probe.readings` goes
through a text, whatever it is, and reads at every place where the text occurs.

In markup such a text occurs at the front of a tag and nowhere else, so the readings of markup are
those of its parts, one after the other (`readings_append`), and passing over it with shorthands
that show nothing to the probe changes none of them (`readings_substitute`). What documentation
shows is therefore what the nodes show on their own, in the order of the tree (`readings_visit`).
-/

namespace CommentDocs
namespace Text

/-- What stands behind each occurrence of `p`, from left to right. -/
def behind (p t : Text) : List Text := t.tails.filterMap fun s => s.dropPrefix? p

theorem behind_append_of_startsNowhere {p w : Text} (h : StartsNowhere p w) (t : Text) :
    behind p (w ++ t) = behind p t := by
  induction w with
  | nil => rfl
  | cons c w ih =>
    have hmiss : (c :: (w ++ t)).dropPrefix? p = none := by
      refine Option.eq_none_iff_forall_ne_some.2 fun s hs => ?_
      obtain ⟨p', hp', heq⟩ := List.dropPrefix?_eq_some_iff.1 hs
      cases eq_of_beq heq
      exact h.not_isPrefix t ⟨s, hp'.symm⟩
    rw [List.cons_append, behind, List.tails_cons, List.filterMap_cons, hmiss]
    exact ih h.tail

theorem behind_self_append {c : Char} {p : Text} (hc : c ∉ p) (t : Text) :
    behind (c :: p) (c :: (p ++ t)) = t :: behind (c :: p) t := by
  have hhit : (c :: (p ++ t)).dropPrefix? (c :: p) = some t :=
    List.dropPrefix?_eq_some_iff.2 ⟨c :: p, rfl, beq_self_eq_true _⟩
  rw [behind, List.tails_cons, List.filterMap_cons, hhit]
  exact congrArg (t :: ·) (behind_append_of_startsNowhere (startsNowhere_of_head hc) t)

end Text

namespace Html

/-- A text that can occur in markup only at the front of a tag: it opens one, and if it holds the
end of one, that is its last character. -/
def IsCue (p : Text) : Prop := p = '<' :: p.tail ∧ '<' ∉ p.tail ∧ '>' ∉ p.tail.dropLast

instance (p : Text) : Decidable (IsCue p) :=
  inferInstanceAs (Decidable (p = '<' :: p.tail ∧ '<' ∉ p.tail ∧ '>' ∉ p.tail.dropLast))

/-- What to look for in markup, and what to read behind it without leaving the tag. -/
structure Probe (β : Type) where
  cue : Text
  read : Text → β
  isCue : IsCue cue
  read_append : ∀ s t, IsTag (cue ++ s) → read (s ++ t) = read s

namespace Probe

variable {β : Type} (g : Probe β)

/-- What is read at each occurrence of the cue, from left to right. -/
def readings (t : Text) : List β := (Text.behind g.cue t).map g.read

/-! ## Tokens -/

theorem startsNowhere_of_not_mem {w : Text} (h : '<' ∉ w) : Text.StartsNowhere g.cue w := by
  rw [g.isCue.1]
  exact Text.startsNowhere_of_head h

theorem readings_nil : g.readings [] = [] := by
  rw [readings, g.isCue.1]
  rfl

theorem readings_skip {w : Text} (h : Text.StartsNowhere g.cue w) (t : Text) :
    g.readings (w ++ t) = g.readings t := by
  rw [readings, Text.behind_append_of_startsNowhere h, readings]

theorem readings_of_not_mem {w : Text} (h : '<' ∉ w) (t : Text) :
    g.readings (w ++ t) = g.readings t := g.readings_skip (g.startsNowhere_of_not_mem h) t

/-- The cue cannot begin in a tag and reach over its end. -/
theorem startsNowhere_of_tag {x : Text} (hx : IsTag x) (h : ¬g.cue <+: x) :
    Text.StartsNowhere g.cue x := by
  obtain ⟨u, rfl, hu⟩ := hx.delimited
  obtain ⟨hopen, _, hclose⟩ := g.isCue
  have htail : '<' ∉ u ++ ['>'] := by
    intro hm
    rcases List.mem_append.1 hm with hm | hm
    · exact hu _ hm (by decide)
    · exact absurd (List.mem_singleton.1 hm) (by decide)
  intro v hv hvx t hp
  rcases List.suffix_cons_iff.1 hvx with rfl | hvx
  · rcases List.prefix_or_prefix_of_prefix hp (List.prefix_append _ t) with hp | ⟨r, hr⟩
    · exact h hp
    · cases r with
      | nil => exact h (by rw [← hr, List.append_nil])
      | cons d r =>
        refine hclose ?_
        rw [← hr]
        simp
  · rw [hopen] at hp
    cases v with
    | nil => exact hv rfl
    | cons d v =>
      obtain ⟨rfl, _⟩ := List.cons_prefix_cons.1 hp
      exact htail (hvx.subset List.mem_cons_self)

theorem readings_cue {s : Text} (hx : IsTag (g.cue ++ s)) (t : Text) :
    g.readings (g.cue ++ s ++ t) = g.read s :: g.readings t := by
  obtain ⟨hopen, hinside, _⟩ := g.isCue
  have hs : '<' ∉ s := by
    obtain ⟨u, hxu, hu⟩ := hx.delimited
    rw [hopen, List.cons_append] at hxu
    have hsu : g.cue.tail ++ s = u ++ ['>'] := (List.cons.inj hxu).2
    intro hm
    have hmem : '<' ∈ u ++ ['>'] := hsu ▸ List.mem_append_right _ hm
    rcases List.mem_append.1 hmem with hm | hm
    · exact hu _ hm (by decide)
    · exact absurd (List.mem_singleton.1 hm) (by decide)
  have hbehind : Text.behind g.cue (g.cue ++ s ++ t) = (s ++ t) :: Text.behind g.cue (s ++ t) := by
    have := Text.behind_self_append hinside (s ++ t)
    rwa [← List.cons_append, ← hopen, ← List.append_assoc] at this
  rw [readings, hbehind, List.map_cons, g.read_append s t hx]
  exact congrArg (g.read s :: ·) (g.readings_of_not_mem hs t)

theorem readings_token {x : Text} (hx : Token x) (t : Text) :
    g.readings (x ++ t) = g.readings x ++ g.readings t := by
  have hskip : Text.StartsNowhere g.cue x →
      g.readings (x ++ t) = g.readings x ++ g.readings t := by
    intro h
    have hx := g.readings_skip h []
    rw [List.append_nil, g.readings_nil] at hx
    rw [hx, g.readings_skip h, List.nil_append]
  cases hx with
  | char hc =>
    exact hskip (g.startsNowhere_of_not_mem fun hm => hc.1 (List.mem_singleton.1 hm).symm)
  | reference hx =>
    have hall : ∀ x ∈ references, '<' ∉ x := by decide
    exact hskip (g.startsNowhere_of_not_mem (hall x hx))
  | tag hx =>
    by_cases hp : g.cue <+: x
    · obtain ⟨s, rfl⟩ := hp
      have hs := g.readings_cue hx []
      rw [List.append_nil, g.readings_nil] at hs
      rw [g.readings_cue hx t, hs]
      rfl
    · exact hskip (g.startsNowhere_of_tag hx hp)

/-! ## Markup -/

theorem readings_append {s : Text} (hs : Markup s) (t : Text) :
    g.readings (s ++ t) = g.readings s ++ g.readings t := by
  induction hs with
  | nil => rw [g.readings_nil]; rfl
  | @cons x s hx _ ih =>
    rw [List.append_assoc, g.readings_token hx, ih, g.readings_token hx, List.append_assoc]

theorem readings_flatMap {α : Type} {f : α → Text} (xs : List α) (h : ∀ x ∈ xs, Markup (f x)) :
    g.readings (xs.flatMap f) = xs.flatMap fun x => g.readings (f x) := by
  induction xs with
  | nil => exact g.readings_nil
  | cons x xs ih =>
    obtain ⟨hx, hxs⟩ := List.forall_mem_cons.1 h
    rw [List.flatMap_cons, g.readings_append hx, ih hxs, List.flatMap_cons]

theorem readings_intercalate {separator : Text} (hs : '<' ∉ separator) (ts : List Text)
    (h : ∀ t ∈ ts, Markup t) : g.readings (separator.intercalate ts) = ts.flatMap g.readings := by
  induction ts with
  | nil => exact g.readings_nil
  | cons t ts ih =>
    obtain ⟨ht, hts⟩ := List.forall_mem_cons.1 h
    cases ts with
    | nil => rw [List.intercalate_singleton, List.flatMap_singleton]
    | cons u ts =>
      rw [List.intercalate_cons_cons, List.append_assoc, g.readings_append ht,
        g.readings_of_not_mem hs, ih hts]
      rfl

theorem readings_escape (s t : Text) : g.readings (escape s ++ t) = g.readings t := by
  refine g.readings_of_not_mem ?_ t
  intro hm
  obtain ⟨c, _, hc⟩ := List.mem_flatMap.1 hm
  unfold escapeChar at hc
  split at hc
  · exact absurd hc (by decide)
  · exact absurd hc (by decide)
  · exact absurd hc (by decide)
  · rename_i hlt _
    exact hlt (List.mem_singleton.1 hc).symm

theorem readings_around_escape {s : Text} (hs : Markup s) (t u : Text) :
    g.readings (s ++ escape t ++ u) = g.readings s ++ g.readings u := by
  rw [List.append_assoc, g.readings_append hs, g.readings_escape]

/-! ## Passes -/

/-- The probe reads nothing of the shorthands and of what stands for them. -/
def PassesSymbols : Prop := ∀ r ∈ symbols, g.readings r.1 = [] ∧ g.readings r.2 = []

theorem readings_substitute (hg : g.PassesSymbols) {t : Text} (h : Markup t) :
    g.readings (substitute t) = g.readings t := by
  refine (substituteBy_induction (P := fun s => Markup s ∧ g.readings s = g.readings t)
    ?_ ⟨h, rfl⟩).2
  rintro r hr s ⟨hs, hst⟩
  refine ⟨hs.replace_symbol hr, ?_⟩
  obtain ⟨_, hold, hnew⟩ := symbol_markup hr
  obtain ⟨hgold, hgnew⟩ := hg r hr
  have hsame : g.readings s = g.readings (Text.replace r.1 r.2 s) := by
    refine hs.replace_induction (P := fun u v => g.readings u = g.readings v) hr rfl ?_ ?_
    · intro u v huv
      rw [g.readings_append hold, g.readings_append hnew, hgold, hgnew, huv]
    · intro x u v hx huv
      rw [g.readings_token hx, g.readings_token hx, huv]
  rw [← hsame, hst]

/-! ## Nodes -/

theorem readings_supertypes (e : Entity) :
    g.readings (supertypes e) =
      if e.supertypes = [] then []
      else g.readings "<div class=\"extends\"> extends " ++ g.readings " </div>" := by
  unfold supertypes
  split
  · rename_i h
    rw [h, if_pos rfl, g.readings_nil]
  · rename_i h
    obtain ⟨h1, h2, _⟩ := reads_supertypes
    have hne : e.supertypes ≠ [] := h
    have hgap : '<' ∉ (", " : Text) := by decide
    have hnames : ∀ t ∈ e.supertypes.map escape, Markup t ∧ g.readings t = [] := by
      intro t ht
      obtain ⟨name, _, rfl⟩ := List.mem_map.1 ht
      have hread := g.readings_escape name []
      rw [List.append_nil, g.readings_nil] at hread
      exact ⟨markup_escape name, hread⟩
    have hlist := g.readings_intercalate hgap _ fun t ht => (hnames t ht).1
    rw [List.flatMap_eq_nil_iff.2 fun t ht => (hnames t ht).2] at hlist
    have hfront := Markup.of_reads h1
    have hmiddle := Markup.intercalate (.of_reads h2) _ fun t ht => (hnames t ht).1
    rw [if_neg hne, g.readings_append (hfront.append hmiddle), g.readings_append hfront, hlist,
      List.append_nil]

theorem readings_divisions {start middle : Text} (hstart : reads [] start)
    (hmiddle : reads [] middle) (p : Param) :
    g.readings (start ++ escape p.label ++ middle ++ escape p.description ++ " </div> </div>") =
      g.readings start ++ g.readings middle ++ g.readings " </div> </div>" := by
  have hstart := Markup.of_reads hstart
  have hlabel := (hstart.append (markup_escape p.label)).append (.of_reads hmiddle)
  rw [g.readings_around_escape hlabel, g.readings_around_escape hstart]

theorem readings_opening_entity (e : Entity) :
    g.readings (opening (.entity e)) =
      g.readings ("<article id=\"" ++ e.anchor ++ "\" class=\"" ++ e.kind.tag ++ "\">") ++
        (g.readings " <h1> " ++ g.readings " </h1> " ++ g.readings (supertypes e) ++
          g.readings " <p> " ++ g.readings " </p> <p> ") := by
  obtain ⟨h1, h2, h3, _, _⟩ := reads_entity
  have htag : Markup ("<article id=\"" ++ e.anchor ++ "\" class=\"" ++ e.kind.tag ++ "\">") :=
    .token (.tag (.article e.kind (isAnchor_anchor e)))
  have hlabel := ((Markup.of_reads h1).append (markup_escape e.label)).append (.of_reads h2)
  have hextends := hlabel.append (supertypes_markup e)
  rw [opening_entity, g.readings_append htag,
    g.readings_around_escape (hextends.append (.of_reads h3)), g.readings_append hextends,
    g.readings_append hlabel, g.readings_around_escape (.of_reads h1)]

theorem readings_opening_method (m : Method) :
    g.readings (opening (.method m)) = g.readings "<section> <h2> " ++ g.readings " </h2> " :=
  g.readings_around_escape (.of_reads reads_member.1) _ _

theorem readings_closing_member (m : Method) :
    g.readings (" <div class=\"method_desc\"> " ++ escape m.description ++ " </div> </section>") =
      g.readings " <div class=\"method_desc\"> " ++ g.readings " </div> </section>" :=
  g.readings_around_escape (.of_reads reads_member.2.2.1) _ _

theorem readings_visit (hg : g.PassesSymbols) (n : Node) :
    g.readings (visit n) =
      g.readings (opening n) ++ (n.children.flatMap fun c => g.readings (visit c)) ++
        g.readings (closing n) := by
  have hchildren : ∀ t ∈ n.children.map visit, Markup t := by
    intro t ht
    obtain ⟨c, _, rfl⟩ := List.mem_map.1 ht
    exact visit_markup c
  have hblank : Markup " " := .of_reads (by decide)
  have hcontained : Markup (contained substitute n) := .intercalate hblank _ hchildren
  have hbody := (opening_markup n).append hcontained
  have hread : g.readings (contained substitute n) =
      n.children.flatMap fun c => g.readings (visit c) := by
    have hgap : '<' ∉ (" " : Text) := by decide
    have := g.readings_intercalate hgap _ hchildren
    rwa [List.flatMap_map] at this
  rw [visit, visitWith_eq, g.readings_substitute hg (hbody.append (closing_markup n)),
    g.readings_append hbody, g.readings_append (opening_markup n), hread]

end Probe
end Html
end CommentDocs
