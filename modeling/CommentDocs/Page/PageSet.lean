import CommentDocs.Format
import CommentDocs.Page.Template

/-!
# CommentDocs.Page.PageSet

The pages of a documentation, in the order in which they were first named. Inserting a page under a
name that is taken replaces the template and keeps the place, so names stay distinct.
-/

namespace CommentDocs

structure Page where
  name : Text
  template : Text
deriving DecidableEq

namespace Page

/-- Reads a page specification: a name, an equals sign and the path of a template. The name, which
becomes a file name, is not empty and holds no slash and no backslash; the path is not blank. -/
def readSpec (spec : Text) : Option (Text × Text) :=
  match Text.splitOnce '=' spec with
  | none => none
  | some (left, right) =>
    let name := Text.trim left
    let path := Text.trim right
    if name = [] ∨ '/' ∈ name ∨ '\\' ∈ name ∨ path = [] then none else some (name, path)

end Page

/-- Pages of distinct names. -/
structure PageSet where
  pages : List Page
  nodup : (pages.map Page.name).Nodup

namespace PageSet

def empty : PageSet := ⟨[], .nil⟩

def retemplate (name template : Text) (pages : List Page) : List Page :=
  pages.map fun p => if p.name = name then ⟨name, template⟩ else p

theorem map_name_retemplate (name template : Text) (pages : List Page) :
    (retemplate name template pages).map Page.name = pages.map Page.name := by
  rw [retemplate, List.map_map]
  apply List.map_congr_left
  intro p _
  simp only [Function.comp]
  split
  · next h => exact h.symm
  · rfl

/-- Adds a page at the end, or replaces the template of the page that has the name. -/
def insert (ps : PageSet) (name template : Text) : PageSet :=
  if h : name ∈ ps.pages.map Page.name then
    ⟨retemplate name template ps.pages, by rw [map_name_retemplate]; exact ps.nodup⟩
  else
    ⟨ps.pages ++ [⟨name, template⟩], by
      rw [List.map_append]
      refine List.nodup_append.2 ⟨ps.nodup, by simp, ?_⟩
      rintro a ha b hb rfl
      rw [List.map_singleton, List.mem_singleton] at hb
      exact h (by rw [hb] at ha; exact ha)⟩

def defaultFor (format : Format) : PageSet := empty.insert "index" format.defaultPage

def renderPage (format : Format) (contents index : Text) (fragments : Fragments) (p : Page) :
    (Text × Text) × List Event :=
  let (text, events) := Template.fill p.template contents index fragments
  ((p.name, format.finishPage text), events)

def render (ps : PageSet) (format : Format) (ns : Namespace) (fragments : Fragments) :
    List (Text × Text) × List Event :=
  let parts := ps.pages.map
    (renderPage format (format.render ns) (format.renderIndex ns) fragments)
  (parts.map Prod.fst, parts.flatMap Prod.snd)

end PageSet
end CommentDocs
