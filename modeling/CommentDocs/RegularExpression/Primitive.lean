import CommentDocs.RegularExpression.Options

/-!
# CommentDocs.RegularExpression.Primitive

The expressions without parts: a character that stands for itself, the full stop, positions, and
the classes that have a name. Most of them are written with a backslash.

An expression is matched against text by a table over bytes, and it may match whole characters only.
So bytes beyond ASCII must not be spoken of one by one (`Primitive.isSound`), and positions that
depend on which characters make up a word are for ASCII words alone.
-/

namespace CommentDocs
namespace RegularExpression

inductive Primitive where
  /-- A character; `asByte` if it is written by two digits, which stand for a byte. -/
  | literal (c : Char) (asByte : Bool)
  | anyChar
  /-- A position, `ofWord` if it is one at which a word ends or does not end. -/
  | position (ofWord : Bool)
  /-- Digits, blanks or the characters of words, or all but these. -/
  | kind (negated : Bool)
  | category
deriving DecidableEq

namespace Primitive

def isSound (o : Options) : Primitive → Bool
  | .literal c asByte => o.unicode || !asByte || c.toNat < 0x80
  | .anyChar => o.unicode
  | .position ofWord => !ofWord || !o.unicode
  | .kind negated => o.unicode || !negated
  | .category => o.unicode

def isMember (o : Options) : Primitive → Bool
  | .literal c _ => o.unicode || c.toNat < 0x80
  | .anyChar | .position _ => false
  | .kind negated => o.unicode || !negated
  | .category => o.unicode

/-! ## Reading -/

def hexValue? (c : Char) : Option Nat :=
  if c.isDigit then some (c.toNat - '0'.toNat)
  else if 'a' ≤ c ∧ c ≤ 'f' then some (c.toNat - 'a'.toNat + 10)
  else if 'A' ≤ c ∧ c ≤ 'F' then some (c.toNat - 'A'.toNat + 10)
  else none

/-- Reads `n` digits to base sixteen behind those that make up `value`. -/
def hexNumber? (o : Options) : Nat → Nat → Text → Option (Nat × Text)
  | 0, value, t => some (value, t)
  | n + 1, value, t =>
    match o.skip t with
    | [] => none
    | c :: t =>
      match hexValue? c with
      | none => none
      | some digit => hexNumber? o n (16 * value + digit) t

def codePoint? (o : Options) (digits : Nat) (asByte : Bool) (t : Text) :
    Option (Primitive × Text) :=
  match hexNumber? o digits 0 t with
  | none => none
  | some (n, t) =>
    if n < 0xD800 ∨ (0xDFFF < n ∧ n < 0x110000) then some (.literal (Char.ofNat n) asByte, t)
    else none

def categoryLetters : Text := "CLMNPSZclmnpsz"

def category? (o : Options) (t : Text) : Option (Primitive × Text) :=
  match o.skip t with
  | [] => none
  | c :: t => if categoryLetters.contains c then some (.category, t) else none

/-- The expression that a single character behind a backslash stands for. Any ASCII character that
is neither letter nor digit stands for itself, except those that enclose words. -/
def ofEscaped? (c : Char) : Option Primitive :=
  match c with
  | 'd' | 's' | 'w' => some (.kind false)
  | 'D' | 'S' | 'W' => some (.kind true)
  | 'A' | 'z' => some (.position false)
  | 'b' | 'B' | '<' | '>' => some (.position true)
  | 'a' => some (.literal '\x07' false)
  | 'f' => some (.literal '\x0c' false)
  | 't' => some (.literal '\t' false)
  | 'n' => some (.literal '\n' false)
  | 'r' => some (.literal '\r' false)
  | 'v' => some (.literal '\x0b' false)
  | c => if c.toNat < 0x80 && !c.isAlphanum then some (.literal c false) else none

def escaped? (o : Options) : Text → Option (Primitive × Text)
  | [] => none
  | 'x' :: t => codePoint? o 2 true t
  | 'u' :: t => codePoint? o 4 false t
  | 'U' :: t => codePoint? o 8 false t
  | 'p' :: t => category? o t
  | 'P' :: t => category? o t
  | c :: t => (ofEscaped? c).map fun p => (p, t)

def ofText? (o : Options) : Text → Option (Primitive × Text)
  | [] => none
  | '\\' :: t => escaped? o t
  | '.' :: t => some (.anyChar, t)
  | '^' :: t => some (.position false, t)
  | '$' :: t => some (.position false, t)
  | c :: t => some (.literal c false, t)

/-- Reads a member of a bracket, where only the backslash has a meaning of its own. -/
def member? (o : Options) : Text → Option (Primitive × Text)
  | [] => none
  | '\\' :: t => escaped? o t
  | c :: t => some (.literal c false, t)

end Primitive
end RegularExpression
end CommentDocs
