import CommentDocs.Format.Html
import CommentDocs.Format.Json
import CommentDocs.Format.Markdown

/-!
# CommentDocs.Format

The output formats, and what a page needs to know of each: the contents and the index of a
namespace, the template used when no other is given, and the pass over a finished page.
-/

namespace CommentDocs

inductive Format where
  | html
  | json
  | markdown
deriving DecidableEq

namespace Format

def ofName? (name : Text) : Option Format :=
  if name = "html" then some .html
  else if name = "json" then some .json
  else if name = "markdown" ∨ name = "md" then some .markdown
  else none

def render : Format → Namespace → Text
  | .html, ns => Html.visit (.everything ns)
  | .json, ns => (Json.ofNamespace ns).document
  | .markdown, ns => Markdown.everything ns

def renderIndex : Format → Namespace → Text
  | .html, ns => Html.index ns
  | .json, ns => (Json.index ns).document
  | .markdown, ns => Markdown.index ns

def extension : Format → Text
  | .html => "html"
  | .json => "json"
  | .markdown => "md"

def defaultPage : Format → Text
  | .html => Html.defaultPage
  | .json | .markdown => "%(contents)"

/-- The pass over a filled page. -/
def finishPage : Format → Text → Text
  | .html, t => Html.substitute t
  | .json, t | .markdown, t => t

end Format
end CommentDocs
