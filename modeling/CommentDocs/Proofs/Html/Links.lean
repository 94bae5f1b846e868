import CommentDocs.Proofs.Html.Probe

/-!
# CommentDocs.Proofs.Html.Links

The links of a page and what they lead to. A probe that finds none of the tags without parameters
reads of the default page what it reads of the links of the index and then what it reads of the
articles, one of each for each entity (`Probe.readings_defaultPage`), and nothing else, whatever the
texts of the documentation are. Two such probes are the search for links, `linkProbe`, and the
search for articles, `articleProbe`.
-/

namespace CommentDocs

/-- What stands before the first double quote, if there is one. -/
def Text.untilQuote (t : Text) : Option Text := (Text.splitOnce '"' t).map Prod.fst

theorem Text.untilQuote_append {a : Text} (h : '"' ∉ a) (t : Text) :
    Text.untilQuote (a ++ '"' :: t) = some a := by
  rw [untilQuote, splitOnce_eq_some.2 ⟨rfl, h⟩]
  rfl

theorem Text.untilQuote_append_of_mem {s : Text} (h : '"' ∈ s) (t : Text) :
    Text.untilQuote (s ++ t) = Text.untilQuote s := by
  cases hs : splitOnce '"' s with
  | none => exact absurd h (splitOnce_eq_none.1 hs)
  | some parts =>
    obtain ⟨a, b⟩ := parts
    obtain ⟨rfl, ha⟩ := splitOnce_eq_some.1 hs
    rw [List.append_assoc, List.cons_append, untilQuote_append ha, untilQuote_append ha]

namespace Html

/-- The tag that opens the article of an entity. -/
def articleTag (e : Entity) : Text :=
  "<article id=\"" ++ e.anchor ++ "\" class=\"" ++ e.kind.tag ++ "\">"

/-- The tag that opens the link to an entity. -/
def linkTag (e : Entity) : Text := "<a href=\"#" ++ e.anchor ++ "\">"

theorem articleTag_isTag (e : Entity) : IsTag (articleTag e) := .article e.kind (isAnchor_anchor e)

theorem prefix_articleTag (e : Entity) : ("<article id=\"" : Text) <+: articleTag e :=
  (List.prefix_append _ _).trans ((List.prefix_append _ _).trans
    ((List.prefix_append _ _).trans (List.prefix_append _ _)))

theorem linkTag_isTag (e : Entity) : IsTag (linkTag e) := .link (isAnchor_anchor e)

/-- The entities that have an article below a node. -/
def articles : Node → List Entity
  | .everything ns => ns.entities
  | .entity e => [e]
  | _ => []

namespace Probe

variable {β : Type} {g : Probe β}

def SkipsFixedTags (g : Probe β) : Prop := ∀ x ∈ fixedTags, ¬g.cue <+: x

theorem readings_of_other {p x : Text} (hx : IsTag x) (hp : p <+: x)
    (h : ¬g.cue <+: p ∧ ¬p <+: g.cue) : g.readings x = [] := by
  have hcue : ¬g.cue <+: x := by
    intro hcue
    rcases List.prefix_or_prefix_of_prefix hcue hp with hpre | hpre
    · exact h.1 hpre
    · exact h.2 hpre
  have hread := g.readings_skip (g.startsNowhere_of_tag hx hcue) []
  rwa [List.append_nil, g.readings_nil] at hread

theorem readings_of_reads (hg : g.SkipsFixedTags) {t : Text} (h : reads [] t) :
    g.readings t = [] := by
  refine reads_induction (P := fun t => g.readings t = []) g.readings_nil ?_ ?_ h
  · intro c t hc ht
    have hopen : '<' ∉ [c] := fun hm => hc.1 (List.mem_singleton.1 hm).symm
    exact (g.readings_of_not_mem hopen t).trans ht
  · intro x hx t ht
    rcases List.mem_append.1 hx with hx | hx
    · have hall : ∀ x ∈ references, '<' ∉ x := by decide
      exact (g.readings_of_not_mem (hall x hx) t).trans ht
    · exact (g.readings_skip (g.startsNowhere_of_tag (.fixed hx) (hg x hx)) t).trans ht

theorem passesSymbols (hg : g.SkipsFixedTags) : g.PassesSymbols := by
  intro r hr
  obtain ⟨_, hold, hnew⟩ := symbols_read r hr
  exact ⟨readings_of_reads hg hold, readings_of_reads hg hnew⟩

/-! ## What such a probe reads of a page -/

theorem readings_opening (hg : g.SkipsFixedTags) (n : Node) :
    g.readings (opening n) =
      match n with
      | .entity e => g.readings (articleTag e)
      | _ => [] := by
  have hdivisions : ∀ {start middle : Text}, reads [] start ∧ reads [] middle → ∀ p : Param,
      g.readings (start ++ escape p.label ++ middle ++ escape p.description ++ " </div> </div>") =
        [] := by
    rintro start middle ⟨h1, h2⟩ p
    rw [g.readings_divisions h1 h2, readings_of_reads hg h1, readings_of_reads hg h2,
      readings_of_reads hg reads_divisions]
    rfl
  cases n with
  | everything ns => exact readings_of_reads hg reads_everything.1
  | entity e =>
    obtain ⟨h1, h2, h3, h4, _⟩ := reads_entity
    obtain ⟨h5, _, h6⟩ := reads_supertypes
    have hextends : g.readings (supertypes e) = [] := by
      rw [readings_supertypes, readings_of_reads hg h5, readings_of_reads hg h6, List.append_nil,
        ite_self]
    rw [readings_opening_entity, readings_of_reads hg h1, readings_of_reads hg h2, hextends,
      readings_of_reads hg h3, readings_of_reads hg h4]
    exact List.append_nil _
  | constructor m => exact readings_of_reads hg reads_constructor
  | method m =>
    obtain ⟨h1, h2, _, _⟩ := reads_member
    rw [readings_opening_method, readings_of_reads hg h1, readings_of_reads hg h2]
    rfl
  | param p => exact hdivisions reads_param p
  | returns p => exact hdivisions reads_returns p

theorem readings_closing (hg : g.SkipsFixedTags) (n : Node) : g.readings (closing n) = [] := by
  obtain ⟨_, _, h3, h4⟩ := reads_member
  have hmember : ∀ m : Method, g.readings
      (" <div class=\"method_desc\"> " ++ escape m.description ++ " </div> </section>") = [] := by
    intro m
    rw [readings_closing_member, readings_of_reads hg h3, readings_of_reads hg h4]
    rfl
  cases n with
  | everything ns => exact readings_of_reads hg reads_everything.2
  | entity e => exact readings_of_reads hg reads_entity.2.2.2.2
  | constructor m => exact hmember m
  | method m => exact hmember m
  | param p => exact g.readings_nil
  | returns p => exact g.readings_nil

theorem readings_articles (hg : g.SkipsFixedTags) (n : Node) :
    g.readings (visit n) = (articles n).flatMap fun e => g.readings (articleTag e) := by
  induction n using Node.tree_induction with
  | step n ih =>
    have hchildren : (n.children.flatMap fun c => g.readings (visit c)) =
        (n.children.flatMap articles).flatMap fun e => g.readings (articleTag e) := by
      rw [List.flatMap_assoc]
      exact List.flatMap_congr ih
    rw [g.readings_visit (passesSymbols hg), readings_closing hg, readings_opening hg, hchildren,
      List.append_nil]
    -- An entity shows itself in its opening, and no article stands below it.
    cases n with
    | everything ns =>
      have hbelow : (Node.everything ns).children.flatMap articles = ns.entities := by
        simp [Node.children, articles, List.flatMap_map]
      rw [hbelow]
      rfl
    | entity e =>
      have hbelow : (Node.entity e).children.flatMap articles = [] := by
        simp [Node.children, articles, List.flatMap_map]
      rw [hbelow]
      simp [articles]
    | constructor m => simp [Node.children, articles, List.flatMap_map]
    | method m => simp [Node.children, articles, List.flatMap_map]
    | param p => rfl
    | returns p => rfl

theorem readings_index (hg : g.SkipsFixedTags) (ns : Namespace) :
    g.readings (index ns) = ns.entities.flatMap fun e => g.readings (linkTag e) := by
  obtain ⟨h3, h1, h2, h4⟩ := reads_index
  have hitem : ∀ e, g.readings (indexItem e) = g.readings (linkTag e) := by
    intro e
    have hlink : Markup (linkTag e) := .token (.tag (linkTag_isTag e))
    have hbehind : g.readings (linkTag e ++ escape e.label ++ "</a></li>\n") =
        g.readings (linkTag e) := by
      rw [g.readings_around_escape hlink, readings_of_reads hg h2, List.append_nil]
    rw [indexItem_eq, g.readings_append (.of_reads h1), readings_of_reads hg h1]
    exact hbehind
  unfold index
  split
  · rename_i h
    rw [h]
    exact g.readings_nil
  · have hitems : Markup (ns.entities.flatMap indexItem) := .flatMap _ fun e _ => indexItem_markup e
    have hfront : Markup "<ul class=\"index\">\n" := .of_reads h3
    rw [g.readings_append (hfront.append hitems), g.readings_append hfront,
      readings_of_reads hg h3, readings_of_reads hg h4, List.append_nil,
      g.readings_flatMap _ fun e _ => indexItem_markup e, List.nil_append]
    exact List.flatMap_congr fun e _ => hitem e

/-- The default page shows a link for each entity, then an article for each. -/
theorem readings_defaultPage (hg : g.SkipsFixedTags) (ns : Namespace) (fragments : Fragments) :
    g.readings (substitute
        (Template.fill defaultPage (visit (.everything ns)) (index ns) fragments).1) =
      (ns.entities.flatMap fun e => g.readings (linkTag e)) ++
        ns.entities.flatMap fun e => g.readings (articleTag e) := by
  obtain ⟨h1, h2, h3⟩ := reads_page
  have hcontents := visit_markup (.everything ns)
  have hindex := index_markup ns
  rw [g.readings_substitute (passesSymbols hg) (fill_defaultPage_markup hcontents hindex fragments),
    fill_defaultPage, g.readings_append (.of_reads h1), g.readings_append hindex,
    g.readings_append (.of_reads h2), g.readings_append hcontents, readings_of_reads hg h1,
    readings_of_reads hg h2, readings_of_reads hg h3, readings_index hg, readings_articles hg,
    List.append_nil]
  rfl

end Probe

/-! ## The anchors of links and articles -/

theorem IsTag.fixed_or_quotes {x : Text} (h : IsTag x) : x ∈ fixedTags ∨ 2 ≤ x.count '"' := by
  cases h with
  | fixed h => exact .inl h
  | @article anchor kind _ =>
    have h1 : ("<article id=\"" : Text).count '"' = 1 := by decide
    have h2 : ("\" class=\"" : Text).count '"' = 2 := by decide
    simp only [List.count_append, h1, h2]
    right
    omega
  | @link anchor _ =>
    have h1 : ("<a href=\"#" : Text).count '"' = 1 := by decide
    have h2 : ("\">" : Text).count '"' = 1 := by decide
    simp only [List.count_append, h1, h2]
    right
    omega

/-- The search for anchors behind a cue that ends with the quote before them. -/
def anchorProbe (cue : Text) (isCue : IsCue cue) (hfixed : ∀ x ∈ fixedTags, ¬cue <+: x)
    (hquote : cue.count '"' = 1) : Probe (Option Text) where
  cue
  read := Text.untilQuote
  isCue
  read_append := by
    intro s t hx
    refine Text.untilQuote_append_of_mem ?_ t
    rcases hx.fixed_or_quotes with hx | hcount
    · exact absurd (List.prefix_append cue s) (hfixed _ hx)
    · rw [List.count_append, hquote] at hcount
      exact List.count_pos_iff.1 (by omega)

theorem anchorProbe_skips {cue : Text} (isCue : IsCue cue) (hfixed : ∀ x ∈ fixedTags, ¬cue <+: x)
    (hquote : cue.count '"' = 1) : (anchorProbe cue isCue hfixed hquote).SkipsFixedTags := hfixed

theorem readings_anchorProbe {cue : Text} (isCue : IsCue cue) (hfixed : ∀ x ∈ fixedTags, ¬cue <+: x)
    (hquote : cue.count '"' = 1) {x anchor rest : Text} (hx : IsTag x) (ha : IsAnchor anchor)
    (h : x = cue ++ (anchor ++ '"' :: rest)) :
    (anchorProbe cue isCue hfixed hquote).readings x = [some anchor] := by
  subst h
  have hq : '"' ∉ anchor := by
    intro hm
    have hno : ¬(Text.isAlphanumeric '"' ∨ '"' = '-') := by decide
    exact hno (ha _ hm)
  have hread := (anchorProbe cue isCue hfixed hquote).readings_cue hx []
  rw [List.append_nil, Probe.readings_nil] at hread
  exact hread.trans (congrArg (fun a => [a]) (Text.untilQuote_append hq rest))

def linkProbe : Probe (Option Text) :=
  anchorProbe "<a href=\"#" (by decide) (by decide) (by decide)

def articleProbe : Probe (Option Text) :=
  anchorProbe "<article id=\"" (by decide) (by decide) (by decide)

theorem linkProbe_link (e : Entity) : linkProbe.readings (linkTag e) = [some e.anchor] := by
  have htag : linkTag e = "<a href=\"#" ++ (e.anchor ++ '"' :: ['>']) := List.append_assoc ..
  exact readings_anchorProbe _ _ _ (linkTag_isTag e) (isAnchor_anchor e) htag

theorem linkProbe_article (e : Entity) : linkProbe.readings (articleTag e) = [] :=
  Probe.readings_of_other (articleTag_isTag e) (prefix_articleTag e) (by decide)

theorem articleProbe_article (e : Entity) :
    articleProbe.readings (articleTag e) = [some e.anchor] := by
  have hcut : ("\" class=\"" : Text) = '"' :: " class=\"" := by decide
  have htag : articleTag e =
      "<article id=\"" ++ e.anchor ++ ('"' :: " class=\"") ++ e.kind.tag ++ "\">" :=
    congrArg (fun middle : Text => "<article id=\"" ++ e.anchor ++ middle ++ e.kind.tag ++ "\">")
      hcut
  simp only [List.append_assoc, List.cons_append] at htag
  exact readings_anchorProbe _ _ _ (articleTag_isTag e) (isAnchor_anchor e) htag

theorem articleProbe_link (e : Entity) : articleProbe.readings (linkTag e) = [] := by
  have hp : ("<a href=\"#" : Text) <+: linkTag e :=
    (List.prefix_append _ _).trans (List.prefix_append _ _)
  exact Probe.readings_of_other (linkTag_isTag e) hp (by decide)

/-- An anchor is no place for a shorthand. -/
theorem substitute_anchor (e : Entity) : substitute e.anchor = e.anchor := by
  have hsymbols : ∀ r ∈ symbols, '&' ∈ r.1 ∨ '[' ∈ r.1 := by decide
  have hfree : Free e.anchor := (isAnchor_anchor e).free
  refine substituteBy_induction (P := fun t => t = e.anchor) ?_ rfl
  rintro r hr _ rfl
  refine Text.replace_of_not_infix ?_ r.2
  intro hi
  rcases hsymbols r hr with h | h
  · exact hfree _ (hi.subset h) (by decide)
  · exact hfree _ (hi.subset h) (by decide)

/-- In the default page, the links of the index lead to the articles: behind each start of a link
and behind each start of an article stands an anchor, and both lists are the anchors of the entities
in the order of the listing. Nothing that is documented makes, hides or changes one of them. -/
theorem links_lead_to_articles (ns : Namespace) (fragments : Fragments) :
    ∃ text : Text,
      ((PageSet.defaultFor .html).render .html ns fragments).1 = [(("index" : Text), text)] ∧
      (Text.behind "<a href=\"#" text).map Text.untilQuote =
        (Text.behind "<article id=\"" text).map Text.untilQuote ∧
      (Text.behind "<article id=\"" text).map Text.untilQuote =
        ns.entities.map (fun e => some e.anchor) ∧
      ∀ e ∈ ns.entities, substitute e.anchor = e.anchor := by
  have hlinks := linkProbe.readings_defaultPage (anchorProbe_skips _ _ _) ns fragments
  have harticles := articleProbe.readings_defaultPage (anchorProbe_skips _ _ _) ns fragments
  have hnone : (ns.entities.flatMap fun _ => ([] : List (Option Text))) = [] :=
    List.flatMap_eq_nil_iff.2 fun _ _ => rfl
  simp only [linkProbe_link, linkProbe_article, hnone, List.append_nil] at hlinks
  simp only [articleProbe_link, articleProbe_article, hnone, List.nil_append] at harticles
  rw [← List.map_eq_flatMap] at hlinks harticles
  exact ⟨_, rfl, hlinks.trans harticles.symm, harticles, fun e _ => substitute_anchor e⟩

end Html
end CommentDocs
