/-!
# CommentDocs.Text.CharRanges

A set of characters given by ascending ranges of code points, the form in which the character
properties of the library are tabulated.
-/

namespace CommentDocs

/-- A set of characters, given by ascending ranges of code points, both ends included. -/
abbrev CharRanges := List (Nat × Nat)

namespace CharRanges

/-- Whether a code point lies in one of the ranges; the search ends at the first range that starts
after it. -/
def covers : CharRanges → Nat → Bool
  | [], _ => false
  | (first, last) :: rs, n => if n < first then false else if n ≤ last then true else covers rs n

def holds (rs : CharRanges) (c : Char) : Bool := rs.covers c.toNat

end CharRanges

end CommentDocs
