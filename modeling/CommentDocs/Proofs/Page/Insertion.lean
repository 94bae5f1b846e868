import CommentDocs.Page.PageSet
import Mathlib.Data.List.Basic

/-!
# CommentDocs.Proofs.Page.Insertion

Page sets as maps in the order of insertion. `LastWins` says what is left of a series of named items
when an item takes the place of the one that had its name. One insertion into a set adds one item to
the series (`LastWins.insert`), and so does each of many (`LastWins.insertAll`). Pages are rendered
one by one, so a rendered set is what is left of the series of all pages that were inserted, each
rendered on its own (`PageSet.renders_insertAll`).
-/

namespace CommentDocs

/-- What is left of a series of named items when an item takes the place of the one that had its
name: each name once, in the order in which the names came up, with the last item of that name. -/
structure LastWins {α : Type} (series kept : List (Text × α)) : Prop where
  names : kept.map Prod.fst = (series.map Prod.fst).eraseDups
  last : ∀ name item, (name, item) ∈ kept →
    ∃ earlier later, series = earlier ++ (name, item) :: later ∧ name ∉ later.map Prod.fst

namespace Page

def entry (p : Page) : Text × Text := (p.name, p.template)

def shown (format : Format) (ns : Namespace) (fragments : Fragments) (p : Page) : Text × Text :=
  (p.name, format.finishPage
    (Template.fill p.template (format.render ns) (format.renderIndex ns) fragments).1)

end Page

namespace PageSet

variable {ps : PageSet} {name template : Text}

def insertAll (ps : PageSet) (pages : List Page) : PageSet :=
  pages.foldl (fun ps p => ps.insert p.name p.template) ps

/-- Rendering the set, in whatever format, gives what is left of the pages of a series, each
rendered on its own. -/
def Renders (ps : PageSet) (series : List Page) : Prop :=
  ∀ format ns fragments,
    LastWins (series.map (Page.shown format ns fragments)) (ps.render format ns fragments).1

/-! ## One insertion -/

theorem map_name_insert :
    (ps.insert name template).pages.map Page.name =
      if name ∈ ps.pages.map Page.name then ps.pages.map Page.name
      else ps.pages.map Page.name ++ [name] := by
  rw [insert]
  split
  · exact map_name_retemplate name template ps.pages
  · rw [List.map_append]
    rfl

theorem mem_insert {p : Page} :
    p ∈ (ps.insert name template).pages ↔ p = ⟨name, template⟩ ∨ p ∈ ps.pages ∧ p.name ≠ name := by
  rw [insert]
  split
  · rename_i htaken
    unfold retemplate
    rw [List.mem_map]
    constructor
    · rintro ⟨q, hq, rfl⟩
      split
      · exact .inl rfl
      · rename_i hne
        exact .inr ⟨hq, hne⟩
    · rintro (rfl | ⟨hp, hne⟩)
      · obtain ⟨q, hq, hname⟩ := List.mem_map.1 htaken
        exact ⟨q, hq, if_pos hname⟩
      · exact ⟨p, hp, if_neg hne⟩
  · rename_i hfresh
    rw [List.mem_append, List.mem_singleton]
    constructor
    · rintro (hp | rfl)
      · exact .inr ⟨hp, fun hname => hfresh (List.mem_map.2 ⟨p, hp, hname⟩)⟩
      · exact .inl rfl
    · rintro (rfl | ⟨hp, _⟩)
      · exact .inr rfl
      · exact .inl hp

end PageSet

theorem eraseDups_concat {names : List Text} {name : Text} :
    (names ++ [name]).eraseDups =
      if name ∈ names then names.eraseDups else names.eraseDups ++ [name] := by
  rw [List.eraseDups_append, List.removeAll]
  split
  · rename_i h
    simp [h]
  · rename_i h
    simp [h, List.eraseDups_cons]

namespace LastWins

variable {ps : PageSet} {series : List (Text × Text)}

theorem insert (h : LastWins series (ps.pages.map Page.entry)) (name template : Text) :
    LastWins (series ++ [(name, template)])
      ((ps.insert name template).pages.map Page.entry) where
  names := by
    have hnames : ps.pages.map Page.name = (series.map Prod.fst).eraseDups := by
      rw [← h.names, List.map_map]
      rfl
    have hfst : ((ps.insert name template).pages.map Page.entry).map Prod.fst =
        (ps.insert name template).pages.map Page.name := List.map_map
    have hseries : ((series ++ [(name, template)]).map Prod.fst) = series.map Prod.fst ++ [name] :=
      List.map_append
    rw [hfst, hseries, PageSet.map_name_insert, eraseDups_concat]
    simp only [hnames, List.mem_eraseDups]
  last n t hmem := by
    obtain ⟨p, hp, hentry⟩ := List.mem_map.1 hmem
    cases hentry
    rcases PageSet.mem_insert.1 hp with rfl | ⟨hp, hne⟩
    · exact ⟨series, [], rfl, by simp⟩
    · obtain ⟨earlier, later, rfl, hlater⟩ := h.last _ _ (List.mem_map.2 ⟨p, hp, rfl⟩)
      refine ⟨earlier, later ++ [(name, template)], by simp, ?_⟩
      rw [List.map_append, List.mem_append, not_or]
      exact ⟨hlater, fun hm => hne (List.mem_singleton.1 hm)⟩

/-! ## Any number of insertions -/

theorem insertAll (h : LastWins series (ps.pages.map Page.entry)) (pages : List Page) :
    LastWins (series ++ pages.map Page.entry) ((ps.insertAll pages).pages.map Page.entry) := by
  induction pages generalizing ps series with
  | nil =>
    rw [List.map_nil, List.append_nil]
    exact h
  | cons p pages ih =>
    have hrest := ih (h.insert p.name p.template)
    rw [List.append_assoc] at hrest
    exact hrest

/-- What is made of the items does not depend on what else is kept. -/
theorem map {α β : Type} {series kept : List (Text × α)} (h : LastWins series kept) (f : α → β) :
    LastWins (series.map (Prod.map id f)) (kept.map (Prod.map id f)) where
  names := by
    have hfst : ∀ items : List (Text × α),
        (items.map (Prod.map id f)).map Prod.fst = items.map Prod.fst := by simp
    rw [hfst, hfst, h.names]
  last name item hmem := by
    obtain ⟨⟨n, x⟩, hx, heq⟩ := List.mem_map.1 hmem
    cases heq
    obtain ⟨earlier, later, rfl, hlater⟩ := h.last n x hx
    refine ⟨earlier.map (Prod.map id f), later.map (Prod.map id f), by simp, ?_⟩
    simpa using hlater

end LastWins

namespace PageSet

theorem renders_insertAll (pages : List Page) : (empty.insertAll pages).Renders pages := by
  intro format ns fragments
  have hnone : LastWins [] (empty.pages.map Page.entry) := ⟨rfl, by simp [empty]⟩
  let text (template : Text) : Text := format.finishPage
    (Template.fill template (format.render ns) (format.renderIndex ns) fragments).1
  have hshown : ∀ ps : List Page,
      (ps.map Page.entry).map (Prod.map id text) = ps.map (Page.shown format ns fragments) := by
    intro ps
    rw [List.map_map]
    rfl
  have hmap := (hnone.insertAll pages).map text
  rw [List.nil_append, hshown, hshown] at hmap
  have hrender : ((empty.insertAll pages).render format ns fragments).1 =
      (empty.insertAll pages).pages.map (Page.shown format ns fragments) := by
    rw [render, List.map_map]
    rfl
  rw [hrender]
  exact hmap

/-- The page that was inserted first keeps its place and takes the template that came last. -/
example :
    ((empty.insertAll [⟨"index", "one"⟩, ⟨"api", "two"⟩, ⟨"index", "three"⟩]).render .markdown
      .empty .none).1 = ([("index", "three"), ("api", "two")] : List (Text × Text)) := by decide

theorem renders_defaultFor (start : Format) (pages : List Page) :
    ((defaultFor start).insertAll pages).Renders (⟨"index", start.defaultPage⟩ :: pages) :=
  renders_insertAll (⟨"index", start.defaultPage⟩ :: pages)

end PageSet
end CommentDocs
