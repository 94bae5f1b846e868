import CommentDocs.Log.Event
import CommentDocs.Text.Blank
import CommentDocs.Text.Scan

/-!
# CommentDocs.Page.Template

Page templates. A placeholder is a percent sign and, in round brackets, a name of lower-case letters
and possibly an argument: spaces or tabs and anything up to the closing bracket. `fill` puts
contents, index and fragments for the placeholders that ask for them, in one pass, and leaves every
other placeholder as it stands. What has been filled in is not looked at again.
-/

namespace CommentDocs

structure Placeholder where
  source : Text
  name : Text
  argument : Text

namespace Placeholder

def isNameChar (c : Char) : Bool := 'a' ≤ c && c ≤ 'z'

def isGap (c : Char) : Bool := c = ' ' || c = '\t'

def find : Text.Rule Placeholder := fun t =>
  match t with
  | '%' :: '(' :: t' =>
    let name := t'.takeWhile isNameChar
    if name = [] then none
    else
      match t'.dropWhile isNameChar with
      | ')' :: _ =>
        let length := name.length + 3
        some (length, ⟨t.take length, name, []⟩)
      | c :: rest =>
        let argument := rest.takeWhile (· ≠ ')')
        if isGap c ∧ ')' ∈ rest then
          let length := name.length + argument.length + 4
          some (length, ⟨t.take length, name, Text.trim argument⟩)
        else none
      | [] => none
  | _ => none

end Placeholder

/-- Gives the text of a fragment, or nothing if there is no such fragment, and what there is to
report about reading it. -/
abbrev Fragments := Text → Option Text × List Event

namespace Fragments

def none : Fragments := fun _ => (.none, [])

def ofList (fragments : List (Text × Text)) : Fragments := fun name => (fragments.lookup name, [])

end Fragments

namespace Template

/-- What is put for a placeholder. A missing fragment is reported and leaves nothing. -/
def expand (contents index : Text) (fragments : Fragments) (p : Placeholder) : Text × List Event :=
  if p.name = "contents" then (contents, [])
  else if p.name = "index" then (index, [])
  else if p.name = "include" then
    match fragments p.argument with
    | (some t, events) => (t, events)
    | (none, events) => ([], events ++ [.fragmentMissing p.argument])
  else (p.source, [])

def expandPiece (contents index : Text) (fragments : Fragments) :
    Text.Piece Placeholder → Text × List Event
  | .char c => ([c], [])
  | .hit p => expand contents index fragments p

def fill (template contents index : Text) (fragments : Fragments) : Text × List Event :=
  let parts := (Text.pieces Placeholder.find template).map (expandPiece contents index fragments)
  (parts.flatMap Prod.fst, parts.flatMap Prod.snd)

end Template
end CommentDocs
