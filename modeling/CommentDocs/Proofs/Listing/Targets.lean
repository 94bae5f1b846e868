import CommentDocs.Proofs.Builder.NormalForm
import CommentDocs.Proofs.Comment.Conservation
import CommentDocs.Proofs.Html.Links
import CommentDocs.Proofs.Json.Lossless
import CommentDocs.Proofs.Markdown.Anchors
import Mathlib.Data.List.Nodup

/-!
# CommentDocs.Proofs.Listing.Targets

What the links of an index lead to. In every format the entries of the index name the anchors that
the contents set, in the same order (`Format.Leads`, `Format.Sets`), and a link leads to the first
place that has its anchor. An anchor keeps the kind of an entity and the letters, digits and hyphens
of its name in lower case (`Entity.handle`); entities that agree in both share an anchor
(`Entity.Alike`). So a link may lead to another entity, and it does so exactly if an entity of that
kind stands before its own: `Builder.anchors_tell_apart`.
-/

namespace CommentDocs

/-! ## Slugs of words -/

namespace Text

variable {t : Text}

theorem ofNat_ne_space {n : Nat} (h : n ≠ 32) : Char.ofNat n ≠ ' ' := by
  intro hspace
  by_cases hvalid : n.isValidChar
  · have hchar : Char.ofNat n = Char.ofNatAux n hvalid := dif_pos hvalid
    have hcode : n = 32 := congrArg Char.toNat (hchar.symm.trans hspace)
    exact h hcode
  · have hnull : Char.ofNat n = '\x00' := dif_neg hvalid
    exact absurd (hnull.symm.trans hspace) (by decide)

theorem lowerCode_ne {rs : List CaseRun} {k n : Nat} (h : ∀ r ∈ rs, k < r.first + r.shift)
    (hn : n ≠ k) : lowerCode rs n ≠ k := by
  induction rs with
  | nil => exact hn
  | cons r rs ih =>
    obtain ⟨hr, hrs⟩ := List.forall_mem_cons.1 h
    rw [lowerCode]
    split
    · exact hn
    · split
      · omega
      · exact ih hrs

theorem space_not_mem_lowerChar {c : Char} (hc : c ≠ ' ') : ' ' ∉ lowerChar c := by
  -- The space is below all that the table leads to.
  have hruns : ∀ r ∈ caseRuns, (32 : Nat) < r.first + r.shift := by decide +kernel
  have hcode : c.toNat ≠ 32 := fun h => hc (Char.toNat_inj.1 h)
  unfold lowerChar
  split
  · decide
  · rw [List.mem_singleton]
    exact (ofNat_ne_space (lowerCode_ne hruns hcode)).symm

theorem space_not_mem_lowerAfter (before : Text) (h : ' ' ∉ t) : ' ' ∉ lowerAfter before t := by
  induction t generalizing before with
  | nil => exact h
  | cons c t ih =>
    rw [List.mem_cons, not_or] at h
    rw [lowerAfter, List.mem_append, not_or]
    refine ⟨?_, ih _ h.2⟩
    split
    · split <;> decide
    · exact space_not_mem_lowerChar (Ne.symm h.1)

theorem trim_of_not_blank (h : ∀ c ∈ t, isBlank c = false) : trim t = t := by
  have htrim : ∀ c ∈ trim t, isBlank c = false := fun c hc => h c ((isInfix_trim t).subset hc)
  rw [← ink_of_free htrim, ink_trim, ink_of_free h]

/-- The slug of a word is what it holds in lower case of letters, digits and hyphens. -/
theorem slug_of_not_blank (h : ∀ c ∈ t, isBlank c = false) :
    slug t = (lowercase t).filter fun c => isAlphanumeric c || c = '-' := by
  have hspace : ' ' ∉ lowercase t :=
    space_not_mem_lowerAfter [] fun hm => absurd (h _ hm) (by decide)
  have hfilter : ((lowercase t).filter fun c => isAlphanumeric c || c = ' ' || c = '-') =
      (lowercase t).filter fun c => isAlphanumeric c || c = '-' := by
    refine List.filter_congr fun c hc => ?_
    have hne : c ≠ ' ' := fun e => hspace (e ▸ hc)
    simp [hne]
  rw [slug, trim_of_not_blank h, hfilter]
  -- There is no space for which to put a hyphen.
  refine (List.map_congr_left fun c hc => ?_).trans (List.map_id' _)
  exact if_neg fun e : c = ' ' => hspace (e ▸ (List.mem_filter.1 hc).1)

end Text

/-! ## Anchors of entities -/

namespace Entity

/-- The letters, digits and hyphens of the name that an entity is shown under, in lower case. -/
def handle (e : Entity) : Text :=
  (Text.lowercase e.displayName).filter fun c => Text.isAlphanumeric c || c = '-'

/-- Nothing that an anchor keeps tells the entities apart. -/
def Alike (a b : Entity) : Prop := a.kind = b.kind ∧ a.handle = b.handle

instance (a b : Entity) : Decidable (a.Alike b) :=
  inferInstanceAs (Decidable (a.kind = b.kind ∧ a.handle = b.handle))

theorem WellFormed.anchor_eq {e : Entity} (h : e.WellFormed) :
    e.anchor = e.kind.tag ++ "-" ++ e.handle := by
  have hname : ∀ c ∈ e.displayName, Text.isBlank c = false := fun c hc =>
    h.label.not_blank c (mem_label_of_mem_displayName hc)
  rw [anchor, Text.slug_of_not_blank hname, handle]

theorem WellFormed.anchor_eq_iff {a b : Entity} (ha : a.WellFormed) (hb : b.WellFormed) :
    a.anchor = b.anchor ↔ a.Alike b := by
  have hlength : ∀ k : Kind, (k.tag ++ "-").length = 6 := by
    intro k
    cases k <;> rfl
  rw [ha.anchor_eq, hb.anchor_eq]
  constructor
  · intro h
    obtain ⟨htag, hhandle⟩ := List.append_inj h (by rw [hlength, hlength])
    exact ⟨Kind.tag_injective (List.append_cancel_right htag), hhandle⟩
  · rintro ⟨hkind, hhandle⟩
    rw [hkind, hhandle]

/-- Signs, letter case and what stands behind a colon are all lost. -/
example : (ofKey ⟨.cls, "Grid<T>"⟩).Alike (ofKey ⟨.cls, "gridT:Layer"⟩) := by decide

end Entity

/-! ## Links and anchors of each format -/

namespace Json

def text? (name : Text) : Json → Option Text
  | .object fields =>
    match fields.lookup name with
    | some (.string t) => some t
    | _ => none
  | _ => none

theorem text?_indexEntry (e : Entity) : text? "anchor" (indexEntry e) = some e.anchor := rfl

theorem text?_ofEntity (e : Entity) : text? "anchor" (ofEntity e) = some e.anchor := rfl

theorem exists_document_eq {wrap : List Json → Json} (hwrap : Function.Injective wrap)
    {P : List Json → Prop} {items : List Json} :
    (∃ vs, (wrap items).document = (wrap vs).document ∧ P vs) ↔ P items := by
  constructor
  · rintro ⟨vs, hdocument, hread⟩
    rwa [hwrap (document_injective hdocument)]
  · exact fun h => ⟨items, rfl, h⟩

end Json

namespace Markdown

/-- What a line of the index links to: what stands behind the last hash, up to the bracket at the
end. -/
def target (line : Text) : Text := (line.dropLast.reverse.takeWhile (· ≠ '#')).reverse

/-- The anchor that a line sets. -/
def anchorIn (line : Text) : Option Text :=
  Text.untilQuote (line.drop ("<a id=\"" : Text).length)

theorem target_indexLine (e : Entity) : target e.indexLine = e.anchor := by
  have hcut : e.indexLine = ("* [" ++ e.label ++ "](" ++ ['#']) ++ e.anchor ++ [')'] :=
    congrArg (· ++ e.anchor ++ [')']) (List.append_assoc _ "](" ['#']).symm
  have hanchor : ∀ c ∈ e.anchor.reverse, decide (c ≠ '#') = true := by
    intro c hc
    refine decide_eq_true ?_
    rintro rfl
    exact absurd (Html.isAnchor_anchor e '#' (List.mem_reverse.1 hc)) (by decide)
  rw [target, hcut, List.dropLast_concat, List.reverse_append, List.reverse_append,
    List.takeWhile_append_of_pos hanchor]
  simp

theorem anchorIn_anchorTag (e : Entity) : anchorIn (anchorTag e) = some e.anchor := by
  have hquote : '"' ∉ e.anchor := fun hm =>
    absurd (Html.isAnchor_anchor e '"' hm) (by decide)
  have hcut : anchorTag e = "<a id=\"" ++ (e.anchor ++ '"' :: "></a>") :=
    List.append_assoc _ e.anchor _
  rw [anchorIn, hcut, List.drop_left, Text.untilQuote_append hquote]

end Markdown

namespace Format

/-- The entries of an index link to these anchors. -/
def Leads : Format → Text → List Text → Prop
  | .html, index, anchors =>
    (Text.behind "<a href=\"#" index).map Text.untilQuote = anchors.map some
  | .json, index, anchors =>
    ∃ entries, index = (Json.array entries).document ∧
      entries.map (Json.text? "anchor") = anchors.map some
  | .markdown, index, anchors => (Text.lines index).map Markdown.target = anchors

/-- The contents set these anchors. -/
def Sets : Format → Text → List Text → Prop
  | .html, contents, anchors =>
    (Text.behind "<article id=\"" contents).map Text.untilQuote = anchors.map some
  | .json, contents, anchors =>
    ∃ entities, contents = (Json.object [("entities", .array entities)]).document ∧
      entities.map (Json.text? "anchor") = anchors.map some
  | .markdown, contents, anchors =>
    (Markdown.anchorLines contents).map Markdown.anchorIn = anchors.map some

variable {ns : Namespace} {anchors : List Text}

theorem eq_map_some_iff {reading : List (Option Text)} {xs : List Text}
    (h : reading = xs.map some) : reading = anchors.map some ↔ anchors = xs := by
  rw [h, List.map_inj_right fun _ _ => Option.some.inj, eq_comm]

theorem map_read {β : Type} {write : Entity → β} {read : β → Option Text}
    (h : ∀ e, read (write e) = some e.anchor) (es : List Entity) :
    (es.map write).map read = (es.map Entity.anchor).map some := by
  rw [List.map_map, List.map_map]
  exact List.map_congr_left fun e _ => h e

/-- In every format the index links to the anchors of the entities. -/
theorem leads_renderIndex (h : ns.WellFormed) (f : Format) :
    f.Leads (f.renderIndex ns) anchors ↔ anchors = ns.entities.map Entity.anchor := by
  cases f with
  | html =>
    have hlinks := Html.linkProbe.readings_index (Html.anchorProbe_skips _ _ _) ns
    simp only [Html.linkProbe_link] at hlinks
    rw [← List.map_eq_flatMap] at hlinks
    exact eq_map_some_iff (hlinks.trans List.map_map.symm)
  | json =>
    have hentries := map_read Json.text?_indexEntry ns.entities
    exact (Json.exists_document_eq fun _ _ => Json.array.inj).trans (eq_map_some_iff hentries)
  | markdown =>
    have hlines : (Text.lines (Markdown.index ns)).map Markdown.target =
        ns.entities.map Entity.anchor := by
      rw [Markdown.lines_index h, List.map_map]
      exact List.map_congr_left fun e _ => Markdown.target_indexLine e
    exact (Eq.congr_left hlines).trans eq_comm

/-- In every format the contents set the anchors of the entities. -/
theorem sets_render (h : ns.WellFormed) (f : Format) :
    f.Sets (f.render ns) anchors ↔ anchors = ns.entities.map Entity.anchor := by
  cases f with
  | html =>
    have harticles := Html.articleProbe.readings_articles (Html.anchorProbe_skips _ _ _)
      (.everything ns)
    simp only [Html.articleProbe_article] at harticles
    rw [← List.map_eq_flatMap] at harticles
    exact eq_map_some_iff (harticles.trans List.map_map.symm)
  | json =>
    have hentities := map_read Json.text?_ofEntity ns.entities
    have hwrap : Function.Injective fun vs => Json.object [("entities", .array vs)] := by
      intro vs ws h
      simpa using h
    exact (Json.exists_document_eq hwrap).trans (eq_map_some_iff hentities)
  | markdown =>
    have hlines := map_read Markdown.anchorIn_anchorTag ns.entities
    rw [← Markdown.anchorLines_everything h] at hlines
    exact eq_map_some_iff hlines

theorem sets_defaultPage (h : ns.WellFormed) (f : Format) (fragments : Fragments) :
    f.Sets (f.finishPage
        (Template.fill f.defaultPage (f.render ns) (f.renderIndex ns) fragments).1) anchors ↔
      anchors = ns.entities.map Entity.anchor := by
  cases f with
  | html =>
    have hpage := Html.articleProbe.readings_defaultPage (Html.anchorProbe_skips _ _ _) ns fragments
    have hlinks : (ns.entities.flatMap fun _ => ([] : List (Option Text))) = [] :=
      List.flatMap_eq_nil_iff.2 fun _ _ => rfl
    simp only [Html.articleProbe_link, Html.articleProbe_article, hlinks, List.nil_append] at hpage
    rw [← List.map_eq_flatMap] at hpage
    change Html.articleProbe.readings (Html.substitute (Template.fill Html.defaultPage
      (Html.visit (.everything ns)) (Html.index ns) fragments).1) = anchors.map some ↔ _
    exact eq_map_some_iff (hpage.trans List.map_map.symm)
  | json =>
    have hpage := Template.fill_contents (Format.json.render ns) (Format.json.renderIndex ns)
      fragments
    exact hpage.symm ▸ sets_render h .json
  | markdown =>
    have hpage := Template.fill_contents (Format.markdown.render ns)
      (Format.markdown.renderIndex ns) fragments
    exact hpage.symm ▸ sets_render h .markdown

end Format

/-! ## Where links lead -/

theorem idxOf_map_eq_iff {α β : Type} [BEq β] [LawfulBEq β] {f : α → β} {xs : List α} {i : Nat}
    {x : α} (hx : xs[i]? = some x) :
    (xs.map f).idxOf (f x) = i ↔ ∀ y ∈ xs.take i, f y ≠ f x := by
  have hmem : f x ∈ xs.map f := List.mem_map_of_mem (List.mem_of_getElem? hx)
  have hle : (xs.map f).idxOf (f x) < i + 1 := by
    rw [← List.mem_take_iff_idxOf_lt hmem, ← List.map_take]
    refine List.mem_map_of_mem (List.mem_of_getElem? (i := i) ?_)
    rw [List.getElem?_take_of_lt (Nat.lt_succ_self i), hx]
  have hbefore : f x ∈ (xs.take i).map f ↔ (xs.map f).idxOf (f x) < i := by
    rw [List.map_take, List.mem_take_iff_idxOf_lt hmem]
  rw [List.mem_map] at hbefore
  constructor
  · intro heq y hy hf
    have hlt := hbefore.1 ⟨y, hy, hf⟩
    omega
  · intro hnone
    have hge : ¬(xs.map f).idxOf (f x) < i := fun hlt => by
      obtain ⟨y, hy, hf⟩ := hbefore.2 hlt
      exact hnone y hy hf
    omega

namespace Builder

/-- Of whatever has been read, the index links in every format to the anchors that the contents and
the default page set, one for each entity in the order of the listing. The link of an entity leads
to its own place if and only if no entity before it is alike, and no anchor is set twice if and only
if no two entities are alike. -/
theorem anchors_tell_apart (sources : List Text) :
    let ns := (empty.readAll sources).1.result
    let anchors := ns.entities.map Entity.anchor
    (∀ a ∈ ns.entities, ∀ b ∈ ns.entities, a.anchor = b.anchor ↔ a.Alike b) ∧
      (∀ (f : Format) (read : List Text), (f.Leads (f.renderIndex ns) read ↔ read = anchors) ∧
        (f.Sets (f.render ns) read ↔ read = anchors) ∧
        ∀ fragments, ∃ text,
          ((PageSet.defaultFor f).render f ns fragments).1 = [(("index" : Text), text)] ∧
          (f.Sets text read ↔ read = anchors)) ∧
      (∀ i e, ns.entities[i]? = some e →
        (anchors.idxOf e.anchor = i ↔ ∀ a ∈ ns.entities.take i, ¬a.Alike e)) ∧
      (anchors.Nodup ↔ ∀ a ∈ ns.entities, ∀ b ∈ ns.entities, a.Alike b → a = b) := by
  intro ns anchors
  have hns : ns.WellFormed := wellFormed_readAll wellFormed_empty sources
  have hanchor : ∀ a ∈ ns.entities, ∀ b ∈ ns.entities, a.anchor = b.anchor ↔ a.Alike b :=
    fun a ha b hb => (hns.of_mem_entities ha).anchor_eq_iff (hns.of_mem_entities hb)
  refine ⟨hanchor, fun f read => ⟨Format.leads_renderIndex hns f, Format.sets_render hns f, ?_⟩,
    ?_, ?_⟩
  · intro fragments
    exact ⟨_, by cases f <;> rfl, Format.sets_defaultPage hns f fragments⟩
  · intro i e he
    refine (idxOf_map_eq_iff (f := Entity.anchor) he).trans (forall₂_congr fun a ha => not_congr ?_)
    exact hanchor a (List.mem_of_mem_take ha) e (List.mem_of_getElem? he)
  · have hnodup := (Reachable.empty.readAll sources).consistent.selfKeyed.nodup_entities
    refine (List.nodup_map_iff_inj_on hnodup).trans ?_
    exact forall₂_congr fun a ha => forall₂_congr fun b hb => imp_congr_left (hanchor a ha b hb)

theorem alike_share_anchor :
    let ns := (empty.readAll ["/**\n * @class Foo\n * @class foo\n */"]).1.result
    ¬∀ a ∈ ns.entities, ∀ b ∈ ns.entities, a.key ≠ b.key → a.anchor ≠ b.anchor := by
  decide

end Builder
end CommentDocs
