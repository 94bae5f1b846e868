import CommentDocs.RegularExpression.Bracket
import CommentDocs.Text.Alphanumeric

/-!
# CommentDocs.RegularExpression.Reader

Which texts are regular expressions (`isWellFormed`). An expression stands between braces in its
setting, so it holds no closing brace, and what would be written with braces does not occur in it.

A text is read from left to right with a stack of the groups and brackets that are open. Nothing is
ever matched here, so of the expressions that have been read only their heights are kept: one in
which more than `heightLimit` parts are nested is refused.
-/

namespace CommentDocs
namespace RegularExpression

def heightLimit : Nat := 250

inductive Part where
  /-- A change of options, which cannot be repeated. -/
  | change
  | expression (height : Nat)
deriving DecidableEq

def Part.height : Part → Nat
  | .change => 0
  | .expression h => h

/-- What has been read of a group: the heights of its alternatives, and the parts of the last one in
reverse order. -/
structure Sequence where
  alternatives : List Nat
  parts : List Part
deriving DecidableEq

namespace Sequence

def empty : Sequence := ⟨[], []⟩

def add (s : Sequence) (p : Part) : Sequence := { s with parts := p :: s.parts }

def alternate (s : Sequence) : Sequence :=
  ⟨joined (s.parts.map Part.height) :: s.alternatives, []⟩

def height (s : Sequence) : Nat := joined s.alternate.alternatives

def repeated? (s : Sequence) : Option Sequence :=
  match s.parts with
  | .expression h :: parts => some { s with parts := .expression (h + 1) :: parts }
  | _ => none

end Sequence

structure Reader where
  rest : Text
  options : Options
  /-- The innermost open group, or the whole expression. -/
  inner : Sequence
  /-- The groups around it, with the options that hold in them. -/
  outer : List (Sequence × Options)
  brackets : List Bracket
  /-- The names of groups that have been given. -/
  names : List Text

namespace Reader

def start (t : Text) : Reader := ⟨t, .initial, .empty, [], [], []⟩

def add (r : Reader) (p : Part) (t : Text) : Reader := { r with rest := t, inner := r.inner.add p }

/-! ## Groups -/

def enter (r : Reader) (o : Options) (t : Text) : Reader :=
  { r with rest := t, options := o, inner := .empty, outer := (r.inner, r.options) :: r.outer }

def isName : Text → Bool
  | [] => false
  | c :: t =>
    (c == '_' || Text.isAlphabetic c) &&
      t.all fun c => c == '_' || c == '.' || c == '[' || c == ']' || Text.isAlphanumeric c

/-- Opens a group with a name, behind the angle bracket in front of the name. No name is given
twice. -/
def openNamed? (r : Reader) (t : Text) : Option Reader :=
  match Text.splitOnce '>' t with
  | none => none
  | some (name, t) =>
    if isName name && !r.names.contains name then
      some { r.enter r.options t with names := name :: r.names }
    else none

/-- Opens a group with options, or changes the options of the innermost group, behind the question
mark. -/
def openOptions? (r : Reader) (t : Text) : Option Reader :=
  let letters := t.takeWhile fun c => c != ':' && c != ')'
  if Options.isChange letters then
    match t.dropWhile fun c => c != ':' && c != ')' with
    | ':' :: t => some (r.enter (r.options.change letters) t)
    | ')' :: t =>
      if letters.isEmpty then none
      else some { r.add .change t with options := r.options.change letters }
    | _ => none
  else none

def openGroup? (r : Reader) (t : Text) : Option Reader :=
  match r.options.skip t with
  | '?' :: 'P' :: '<' :: t => r.openNamed? t
  | '?' :: '<' :: t => r.openNamed? t
  | '?' :: t => r.openOptions? t
  | t => some (r.enter r.options t)

def closeGroup? (r : Reader) (t : Text) : Option Reader :=
  match r.outer with
  | [] => none
  | (s, o) :: outer =>
    let group := Part.expression (r.inner.height + 1)
    some { r with rest := t, options := o, inner := s.add group, outer := outer }

/-! ## Brackets -/

/-- Opens a bracket, behind its opening character. The characters outside of a set can be meant
only where an expression speaks of characters. -/
def openBracket? (r : Reader) (t : Text) : Option Reader :=
  match r.options.skip t with
  | '^' :: t =>
    if r.options.unicode then some { r with rest := t, brackets := .opened :: r.brackets }
    else none
  | t => some { r with rest := t, brackets := .opened :: r.brackets }

def closeBracket (r : Reader) (b : Bracket) (outer : List Bracket) (t : Text) : Reader :=
  match outer with
  | [] => { r.add (.expression (b.height + 1)) t with brackets := [] }
  | c :: outer => { r with rest := t, brackets := c.add (b.height + 1) :: outer }

def member? (r : Reader) (b : Bracket) (outer : List Bracket) (t : Text) : Option Reader :=
  match t with
  | '[' :: t =>
    match Bracket.asciiClass? t with
    | none => openBracket? { r with brackets := b :: outer } t
    | some (negated, t) =>
      if negated && !r.options.unicode then none
      else some { r with rest := t, brackets := b.add 0 :: outer }
  | ']' :: t => some (r.closeBracket b outer t)
  | '&' :: '&' :: t => some { r with rest := t, brackets := b.operate :: outer }
  | '-' :: '-' :: t => some { r with rest := t, brackets := b.operate :: outer }
  | '~' :: '~' :: t => some { r with rest := t, brackets := b.operate :: outer }
  | t =>
    (Bracket.range? r.options t).map fun rest =>
      { r with rest := rest, brackets := b.add 0 :: outer }

/-- Goes over a character in the bracket `b`. In front of all other members minus signs stand for
themselves, and so does a closing bracket. -/
def bracketStep? (r : Reader) (b : Bracket) (outer : List Bracket) (t : Text) : Option Reader :=
  let closed := { b with opening := false }
  match b.opening, t with
  | true, '-' :: t => some { r with rest := t, brackets := b.add 0 :: outer }
  | true, ']' :: rest =>
    if b.members.isEmpty then some { r with rest := rest, brackets := closed.add 0 :: outer }
    else r.member? closed outer t
  | _, t => r.member? closed outer t

/-! ## Steps -/

/-- Repeats the last part; a question mark behind the sign makes the repetition reluctant. -/
def repeat? (r : Reader) (t : Text) : Option Reader :=
  let t :=
    match t with
    | '?' :: t => t
    | t => t
  r.inner.repeated?.map fun s => { r with rest := t, inner := s }

def primitive? (r : Reader) (t : Text) : Option Reader :=
  match Primitive.ofText? r.options t with
  | none => none
  | some (p, t) => if p.isSound r.options then some (r.add (.expression 0) t) else none

/-- Goes over what stands next outside of brackets. A counted repetition is never complete, for want
of a closing brace. -/
def groupStep? (r : Reader) (t : Text) : Option Reader :=
  match t with
  | '(' :: t => r.openGroup? t
  | ')' :: t => r.closeGroup? t
  | '|' :: t => some { r with rest := t, inner := r.inner.alternate }
  | '[' :: t => r.openBracket? t
  | '?' :: t => r.repeat? t
  | '*' :: t => r.repeat? t
  | '+' :: t => r.repeat? t
  | '\x7b' :: _ => none
  | t => r.primitive? t

def step? (r : Reader) (t : Text) : Option Reader :=
  match r.brackets with
  | [] => r.groupStep? t
  | b :: outer => r.bracketStep? b outer t

def isFinished (r : Reader) : Bool :=
  r.brackets.isEmpty && r.outer.isEmpty && r.inner.height ≤ heightLimit

def completes : Nat → Reader → Bool
  | 0, _ => false
  | fuel + 1, r =>
    match r.options.skip r.rest with
    | [] => r.isFinished
    | t =>
      match r.step? t with
      | none => false
      | some s => completes fuel s

end Reader

/-- Whether a text is a regular expression. Every step takes a character at least, so there are no
more steps than characters. -/
def isWellFormed (t : Text) : Bool := (Reader.start t).completes (t.length + 1)

end RegularExpression
end CommentDocs
