import CommentDocs.Text.Blank

/-!
# CommentDocs.RegularExpression.Options

The options of regular expressions, as far as they decide whether an expression is well formed.
Options are changed by letters inside of an expression, and a change holds up to the end of the
group that it stands in.

In the extended form blanks are no part of an expression, nor is a comment from a number sign to the
end of the line (`skip`).
-/

namespace CommentDocs
namespace RegularExpression

structure Options where
  /-- Whether blanks and comments are left out. -/
  extended : Bool
  /-- Whether an expression speaks of characters rather than of bytes. -/
  unicode : Bool
deriving DecidableEq

namespace Options

def initial : Options := ⟨false, true⟩

/-! ## Blanks and comments -/

/-- The text behind the blanks and comments at its front, from inside a comment or not. -/
def skipFrom (inComment : Bool) : Text → Text
  | [] => []
  | c :: t =>
    if inComment then skipFrom (c != '\n') t
    else if c == '#' then skipFrom true t
    else if Text.isBlank c then skipFrom false t
    else c :: t

def skip (o : Options) (t : Text) : Text := if o.extended then skipFrom false t else t

def peekFrom (t : Text) : Option Char :=
  match t.dropWhile Text.isBlank with
  | [] => none
  | '#' :: rest => (rest.dropWhile Text.isBlank).head?
  | c :: _ => some c

/-- The character that follows, by which a minus sign between two members of a bracket is told from
one at its end; if there are only blanks, the first of them. Of a comment only the number sign is
left out. -/
def peek (o : Options) (t : Text) : Option Char :=
  if o.extended then (peekFrom t).or t.head? else t.head?

/-! ## Changes -/

def letters : Text := "imsURux"

def distinct : Text → Bool
  | [] => true
  | c :: t => !t.contains c && distinct t

/-- Whether a text is a change of options: letters, with a minus sign in front of some of them. -/
def isChange (t : Text) : Bool :=
  t.all (fun c => c == '-' || letters.contains c) && distinct t && t.getLast? != some '-'

def switched (letter : Char) (on : Bool) (t : Text) : Bool :=
  if (t.takeWhile (· ≠ '-')).contains letter then true
  else if (t.dropWhile (· ≠ '-')).contains letter then false
  else on

/-- The options behind a change: letters in front of the minus sign switch an option on, letters
behind it off. -/
def change (o : Options) (t : Text) : Options :=
  ⟨switched 'x' o.extended t, switched 'u' o.unicode t⟩

end Options
end RegularExpression
end CommentDocs
