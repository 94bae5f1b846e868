import CommentDocs.RegularExpression.Primitive

/-!
# CommentDocs.RegularExpression.Bracket

Brackets, which stand for one character of a set: members side by side, ranges, classes of ASCII
characters, further brackets, and operators between two sets. Of a set only its height is kept, the
number of parts that are nested in it.
-/

namespace CommentDocs
namespace RegularExpression

/-- The height of parts side by side: that of a single part, else one more than the greatest. -/
def joined : List Nat → Nat
  | [] => 0
  | [h] => h
  | hs => hs.foldr max 0 + 1

structure Bracket where
  /-- The height of the set in front of the last operator. -/
  operand : Option Nat
  /-- The heights of the members behind it. -/
  members : List Nat
  /-- Whether only minus signs have been read, which stand for themselves here. -/
  opening : Bool
deriving DecidableEq

namespace Bracket

def opened : Bracket := ⟨none, [], true⟩

def add (b : Bracket) (height : Nat) : Bracket := { b with members := height :: b.members }

def height (b : Bracket) : Nat :=
  match b.operand with
  | none => joined b.members
  | some left => max left (joined b.members) + 1

def operate (b : Bracket) : Bracket := ⟨some b.height, [], false⟩

/-! ## Reading -/

def asciiNames : List Text :=
  ["alnum", "alpha", "ascii", "blank", "cntrl", "digit", "graph", "lower", "print", "punct",
    "space", "upper", "word", "xdigit"]

/-- Reads an ASCII class, a name between colons, behind its opening bracket; the truth value says
whether the characters outside of the class are meant. -/
def asciiClass? (t : Text) : Option (Bool × Text) :=
  let (negated, t) : Bool × Text :=
    match t with
    | ':' :: '^' :: t => (true, ':' :: t)
    | t => (false, t)
  match t with
  | ':' :: t =>
    match Text.splitOnce ':' t with
    | some (name, ']' :: rest) => if asciiNames.contains name then some (negated, rest) else none
    | _ => none
  | _ => none

/-- Reads the rest of a range whose first member is known, behind the minus sign. Both ends are
characters, and the first is not greater than the last. -/
def rangeFrom? (o : Options) (first : Primitive) (t : Text) : Option Text :=
  match first, Primitive.member? o (o.skip t) with
  | .literal a _, some (.literal b asByte, rest) =>
    if first.isMember o && (Primitive.literal b asByte).isMember o && a ≤ b then some rest else none
  | _, _ => none

/-- Reads a member or a range. A minus sign in front of another one or of the closing bracket makes
no range. -/
def range? (o : Options) (t : Text) : Option Text :=
  match Primitive.member? o t with
  | none => none
  | some (first, t) =>
    match o.skip t with
    | '-' :: rest =>
      if o.peek rest == some ']' || o.peek rest == some '-' then
        if first.isMember o then some ('-' :: rest) else none
      else rangeFrom? o first rest
    | rest => if first.isMember o then some rest else none

end Bracket
end RegularExpression
end CommentDocs
