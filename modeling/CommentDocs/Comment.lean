import CommentDocs.Text.Blank

/-!
# CommentDocs.Comment

Documentation comments in source text. A comment opens with a slash and two stars and ends with a
star and a slash, at the next opening marker, or with the text. The search is purely textual:
strings and code are not told apart from comments.

The body of a comment holds its interior lines: those whose first character that is not blank is a
star, without that star and one space after it. All other lines are dropped.
-/

namespace CommentDocs
namespace Comment

/-- The text before the first opening marker, and for each opening marker the text up to the
next. -/
def splitOpen : Text → Text × List Text
  | [] => ([], [])
  | '/' :: '*' :: '*' :: t =>
    let (first, rest) := splitOpen t
    ([], first :: rest)
  | c :: t =>
    let (first, rest) := splitOpen t
    (c :: first, rest)

/-- The text up to the first closing marker, all of it if there is none. -/
def untilClose : Text → Text
  | [] => []
  | '*' :: '/' :: _ => []
  | c :: t => c :: untilClose t

/-- What an interior line holds; `none` for a line that belongs to no body. -/
def interior (line : Text) : Option Text :=
  match Text.trimStart line with
  | '*' :: ' ' :: t => some t
  | '*' :: t => some t
  | _ => none

/-- The body of the comment that starts with `chunk`: its interior lines, each with a line end. -/
def body (chunk : Text) : Text :=
  Text.unlines ((Text.lines (untilClose chunk)).filterMap interior)

def bodies (source : Text) : List Text := (splitOpen source).2.map body

end Comment
end CommentDocs
