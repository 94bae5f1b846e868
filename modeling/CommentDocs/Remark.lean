import CommentDocs.Text.Blank

/-!
# CommentDocs.Remark

The remarks of a comment body. A line that starts with an at sign opens a remark: its first word is
the tag, its second the label, the others are joined by single spaces to the start of its text.
Every other line that is not blank continues the open remark, trimmed and with a line end. The lines
before the first tag belong to the preamble, a remark with an empty tag which every body has.
-/

namespace CommentDocs

structure Remark where
  tag : Text
  label : Text
  text : Text
deriving DecidableEq

namespace Remark

/-- The remark that holds the text before the first tag. -/
def preamble (text : Text) : Remark := ⟨[], [], text⟩

def isPreamble (a : Remark) : Bool := a.tag.isEmpty

def ofTagLine (line : Text) : Remark :=
  match Text.words line with
  | [] => ⟨[], [], []⟩
  | [tag] => ⟨tag, [], []⟩
  | tag :: label :: seeds => ⟨tag, label, List.intercalate " " seeds⟩

/-- Reads lines. The first part is the text that they add to the remark already open, the
second holds the remarks that they open. -/
def ofLines : List Text → Text × List Remark
  | [] => ([], [])
  | line :: lines =>
    let (more, rest) := ofLines lines
    match Text.trim line with
    | [] => (more, rest)
    | '@' :: t =>
      let a := ofTagLine t
      ([], ⟨a.tag, a.label, a.text ++ more⟩ :: rest)
    | t => (t ++ '\n' :: more, rest)

/-- The remarks of a comment body, the preamble first. -/
def ofBody (body : Text) : List Remark :=
  let (text, rest) := ofLines (Text.lines body)
  preamble text :: rest

end Remark
end CommentDocs
