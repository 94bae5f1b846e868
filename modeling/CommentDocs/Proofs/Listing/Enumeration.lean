import CommentDocs.Builder
import CommentDocs.Format
import CommentDocs.Proofs.Html.Layout
import CommentDocs.Proofs.Listing.Sorted

/-!
# CommentDocs.Proofs.Listing.Enumeration

What a map holds may be enumerated in any order. A document lists it sorted, and so it is the same
whatever that order is: `listing_enumeration` says this of the listings of entities and methods and
of the documents of all formats.

A `Listing` is all that a document knows of the maps below a namespace. `Listing.render` makes the
documents from a listing; with the sorted listing of the library it is `Format.render`
(`Listing.render_sorted`). The letter case folding of the sorts is a parameter.
-/

namespace CommentDocs

/-- In which order documents list the entities of a namespace and the methods of an entity. -/
structure Listing where
  entities : Namespace → List Entity
  methods : Entity → List Method

/-- An order in which the entities of each namespace and the methods of each entity are
enumerated. -/
structure Enumeration where
  entities : Namespace → List Entity
  methods : Entity → List Method
  entities_perm : ∀ ns, (entities ns).Perm ns.table.values
  methods_perm : ∀ e, (methods e).Perm e.methods.values

namespace Enumeration

def listing (fold : Text → Text) (o : Enumeration) : Listing where
  entities ns := Sorting.sort (Entity.order fold) (o.entities ns)
  methods e := Sorting.sort (Entity.methodOrder fold) (o.methods e)

def ascending : Enumeration where
  entities ns := ns.table.values
  methods e := e.methods.values
  entities_perm _ := .refl _
  methods_perm _ := .refl _

def descending : Enumeration where
  entities ns := ns.table.values.reverse
  methods e := e.methods.values.reverse
  entities_perm _ := List.reverse_perm _
  methods_perm _ := List.reverse_perm _

end Enumeration

namespace Listing

/-! ## Documents made from a listing -/

section Documents

variable (l : Listing)

def sorted : Listing := ⟨Namespace.entities, Entity.methodList⟩

def htmlEntity (e : Entity) : Text :=
  Html.substitute (Html.opening (.entity e) ++ List.intercalate " "
    (e.constructor.toList.map (Html.constructor Html.substitute)
      ++ (l.methods e).map (Html.method Html.substitute)) ++ Html.closing (.entity e))

def html (ns : Namespace) : Text :=
  Html.substitute (Html.opening (.everything ns)
    ++ List.intercalate " " ((l.entities ns).map l.htmlEntity) ++ Html.closing (.everything ns))

def htmlIndex (ns : Namespace) : Text :=
  match l.entities ns with
  | [] => []
  | es => "<ul class=\"index\">\n" ++ es.flatMap Html.indexItem ++ "</ul>"

def json (ns : Namespace) : Json :=
  .object [("entities",
    .array ((l.entities ns).map fun e => Json.ofEntityWith (l.methods e) e))]

def markdownEntity (e : Entity) : Text :=
  List.intercalate "\n" (Markdown.blocksWith (l.methods e) e)

def markdownIndex (ns : Namespace) : Text := Text.unlines ((l.entities ns).map Entity.indexLine)

def markdown (ns : Namespace) : Text :=
  Markdown.everythingWith (l.markdownIndex ns) ((l.entities ns).map l.markdownEntity)

def render : Format → Namespace → Text
  | .html, ns => l.html ns
  | .json, ns => (l.json ns).document
  | .markdown, ns => l.markdown ns

def renderIndex : Format → Namespace → Text
  | .html, ns => l.htmlIndex ns
  | .json, ns => (Json.array ((l.entities ns).map Json.indexEntry)).document
  | .markdown, ns => l.markdownIndex ns

end Documents

theorem htmlEntity_sorted : sorted.htmlEntity = Html.entity Html.substitute := by
  funext e
  have hvisit := Html.visitWith_eq Html.substitute (.entity e)
  rw [Html.contained_entity] at hvisit
  exact hvisit.symm

theorem html_sorted (ns : Namespace) : sorted.html ns = Html.visit (.everything ns) := by
  have hvisit := Html.visitWith_eq Html.substitute (.everything ns)
  rw [Html.contained_everything] at hvisit
  rw [html, htmlEntity_sorted]
  exact hvisit.symm

theorem json_sorted (ns : Namespace) : sorted.json ns = Json.ofNamespace ns := by
  unfold json Json.ofNamespace Json.ofEntity sorted
  rfl

theorem markdown_sorted (ns : Namespace) : sorted.markdown ns = Markdown.everything ns := by
  unfold markdown markdownIndex markdownEntity Markdown.everything Markdown.entity Markdown.blocks
    Markdown.index sorted
  rfl

theorem render_sorted (format : Format) (ns : Namespace) :
    sorted.render format ns = format.render ns := by
  cases format with
  | html => simp only [render, Format.render, html_sorted]
  | json => simp only [render, Format.render, json_sorted]
  | markdown => simp only [render, Format.render, markdown_sorted]

theorem renderIndex_sorted (format : Format) (ns : Namespace) :
    sorted.renderIndex format ns = format.renderIndex ns := by
  cases format with
  | html => rfl
  | json => rfl
  | markdown => rfl

/-! ## Listings that agree -/

structure Agree (ns : Namespace) (l l' : Listing) : Prop where
  entities : l.entities ns = l'.entities ns
  methods : ∀ e ∈ ns.table.values, l.methods e = l'.methods e

/-- A listing shows everything below a namespace once, strictly increasing. -/
structure Shows (fold : Text → Text) (ns : Namespace) (l : Listing) : Prop where
  entities_perm : (l.entities ns).Perm ns.table.values
  entities_increasing : (l.entities ns).Pairwise fun a b => Entity.order fold a b = .lt
  methods_perm : ∀ e ∈ ns.table.values, (l.methods e).Perm e.methods.values
  methods_increasing : ∀ e ∈ ns.table.values,
    (l.methods e).Pairwise fun a b => Entity.methodOrder fold a b = .lt

variable {fold : Text → Text} {ns : Namespace} {l l' : Listing}

theorem Agree.map_entities {β : Type} (h : Agree ns l l') (hl : l.Shows fold ns)
    (f : List Method → Entity → β) :
    (l.entities ns).map (fun e => f (l.methods e) e) =
      (l'.entities ns).map fun e => f (l'.methods e) e := by
  rw [← h.entities]
  refine List.map_congr_left fun e he => ?_
  rw [h.methods e (hl.entities_perm.mem_iff.1 he)]

theorem Agree.render_eq (h : Agree ns l l') (hl : l.Shows fold ns) (format : Format) :
    l.render format ns = l'.render format ns := by
  cases format with
  | html =>
    have hentities : (l.entities ns).map l.htmlEntity = (l'.entities ns).map l'.htmlEntity :=
      h.map_entities hl fun ms e => Html.substitute (Html.opening (.entity e) ++
        List.intercalate " " (e.constructor.toList.map (Html.constructor Html.substitute)
          ++ ms.map (Html.method Html.substitute)) ++ Html.closing (.entity e))
    simp only [render, html, hentities]
  | json =>
    have hentities := h.map_entities hl Json.ofEntityWith
    simp only [render, json, hentities]
  | markdown =>
    have hentities : (l.entities ns).map l.markdownEntity =
        (l'.entities ns).map l'.markdownEntity :=
      h.map_entities hl fun ms e => List.intercalate ("\n" : Text) (Markdown.blocksWith ms e)
    have hindex : l.markdownIndex ns = l'.markdownIndex ns := by
      rw [markdownIndex, markdownIndex, h.entities]
    simp only [render, markdown, hentities, hindex]

theorem Agree.renderIndex_eq (h : Agree ns l l') (format : Format) :
    l.renderIndex format ns = l'.renderIndex format ns := by
  cases format with
  | html => simp only [renderIndex, htmlIndex, h.entities]
  | json => simp only [renderIndex, h.entities]
  | markdown => simp only [renderIndex, markdownIndex, h.entities]

end Listing

namespace Enumeration

variable {ns : Namespace}

theorem shows_listing (fold : Text → Text) (h : ns.SelfKeyed) (o : Enumeration) :
    (o.listing fold).Shows fold ns where
  entities_perm := (Sorting.sort_perm _ _).trans (o.entities_perm ns)
  entities_increasing :=
    h.entities.increasing_listing Entity.key_eq_of_order_eq (o.entities_perm ns)
  methods_perm e _ := (Sorting.sort_perm _ _).trans (o.methods_perm e)
  methods_increasing e he :=
    (h.methods e he).increasing_listing Entity.name_eq_of_methodOrder_eq (o.methods_perm e)

theorem entities_listing (fold : Text → Text) (h : ns.SelfKeyed) (o : Enumeration) :
    (o.listing fold).entities ns = (ascending.listing fold).entities ns :=
  h.entities.listing_eq Entity.key_eq_of_order_eq (o.entities_perm ns)

theorem methods_listing (fold : Text → Text) (h : ns.SelfKeyed) (o : Enumeration) {e : Entity}
    (he : e ∈ ns.table.values) :
    (o.listing fold).methods e = (ascending.listing fold).methods e :=
  (h.methods e he).listing_eq Entity.name_eq_of_methodOrder_eq (o.methods_perm e)

theorem agree_listing (fold : Text → Text) (h : ns.SelfKeyed) (o o' : Enumeration) :
    Listing.Agree ns (o.listing fold) (o'.listing fold) where
  entities := (entities_listing fold h o).trans (entities_listing fold h o').symm
  methods _ he := (methods_listing fold h o he).trans (methods_listing fold h o' he).symm

/-- Whatever the folding and whatever the order of enumeration, a listing shows everything once and
strictly increasing, and neither it nor a document made from it depends on that order. With the
folding of the library these are the listings and the documents of the library. -/
theorem listing_enumeration (fold : Text → Text) (h : ns.SelfKeyed) (o : Enumeration) :
    (o.listing fold).Shows fold ns ∧
    (∀ o' : Enumeration, Listing.Agree ns (o.listing fold) (o'.listing fold) ∧
      ∀ format, (o.listing fold).render format ns = (o'.listing fold).render format ns ∧
        (o.listing fold).renderIndex format ns = (o'.listing fold).renderIndex format ns) ∧
    Listing.Agree ns (o.listing Text.lowercase) Listing.sorted ∧
    ∀ format, (o.listing Text.lowercase).render format ns = format.render ns ∧
      (o.listing Text.lowercase).renderIndex format ns = format.renderIndex ns := by
  -- A document asks a listing for no more than what the listings agree on.
  have hrender : ∀ (fold : Text → Text) (o' : Enumeration) (format : Format),
      (o.listing fold).render format ns = (o'.listing fold).render format ns ∧
        (o.listing fold).renderIndex format ns = (o'.listing fold).renderIndex format ns := by
    intro fold o' format
    have hagree := agree_listing fold h o o'
    exact ⟨hagree.render_eq (shows_listing fold h o) format, hagree.renderIndex_eq format⟩
  have hsorted : ascending.listing Text.lowercase = Listing.sorted := rfl
  refine ⟨shows_listing fold h o, fun o' => ⟨agree_listing fold h o o', hrender fold o'⟩, ?_, ?_⟩
  · rw [← hsorted]
    exact agree_listing Text.lowercase h o ascending
  · intro format
    rw [← Listing.render_sorted, ← Listing.renderIndex_sorted, ← hsorted]
    exact hrender Text.lowercase ascending format

/-- Labels and names that differ in letter case only, one label for a class and a mixin, and a label
that was changed after its entity was declared. -/
def alike : Namespace :=
  ((Builder.empty.applyAll [⟨"class", "a", []⟩, ⟨"class", "b", []⟩, ⟨"mixin", "a", []⟩,
    ⟨"class", "A", []⟩, ⟨"method", "run", []⟩, ⟨"method", "Run", []⟩]).1.result).modify
      ⟨.cls, "b"⟩ fun e => { e with label := "a" }

theorem listing_alike :
    alike.SelfKeyed ∧
    descending.entities alike ≠ ascending.entities alike ∧
    (descending.listing Text.lowercase).Shows Text.lowercase alike ∧
    ∀ format, (descending.listing Text.lowercase).render format alike = format.render alike := by
  have hkeyed : alike.SelfKeyed := by decide +kernel
  have hlisting := listing_enumeration Text.lowercase hkeyed descending
  exact ⟨hkeyed, by decide +kernel, hlisting.1, fun format => (hlisting.2.2.2 format).1⟩

end Enumeration
end CommentDocs
