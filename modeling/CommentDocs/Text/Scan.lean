import CommentDocs.Text.Basic

/-!
# CommentDocs.Text.Scan

One pass over a text from left to right that looks for a rule at each place. Where the rule applies
it takes some characters, and the search goes on behind them, so matches are leftmost and do not
overlap; what a match is replaced by is never looked at again.

* `pieces` lists the ordinary characters and the matches in order; `pieces_match` and `pieces_char`
  say how it goes on at a place where the rule applies and at one where it does not.
* `replace` puts one text for another.
-/

namespace CommentDocs
namespace Text

inductive Piece (α : Type) where
  | char (c : Char)
  | hit (a : α)

/-- Looks at the front of a text; gives the number of characters taken there and what they stand
for. -/
abbrev Rule (α : Type) := Text → Option (Nat × α)

/-- The pieces of a text whose first `n` characters belong to a match already found. -/
def piecesAfter {α : Type} (rule : Rule α) : Nat → Text → List (Piece α)
  | _, [] => []
  | n + 1, _ :: t => piecesAfter rule n t
  | 0, c :: t =>
    match rule (c :: t) with
    | none => .char c :: piecesAfter rule 0 t
    | some (n, a) => .hit a :: piecesAfter rule (n - 1) t

def pieces {α : Type} (rule : Rule α) (t : Text) : List (Piece α) := piecesAfter rule 0 t

def Piece.fill {α : Type} (f : α → Text) : Piece α → Text
  | .char c => [c]
  | .hit a => f a

def literal {α : Type} (old : Text) (a : α) : Rule α := fun t =>
  if old.isPrefixOf t then some (old.length, a) else none

/-- Every leftmost occurrence of `old`, which is not empty, gives way to `new`. -/
def replace (old new : Text) (t : Text) : Text :=
  (pieces (literal old new) t).flatMap (Piece.fill id)

theorem piecesAfter_eq_drop {α : Type} (rule : Rule α) (n : Nat) (t : Text) :
    piecesAfter rule n t = pieces rule (t.drop n) := by
  induction t generalizing n with
  | nil => cases n <;> rfl
  | cons c t ih =>
    cases n with
    | zero => rfl
    | succ n => exact ih n

theorem pieces_char {α : Type} {rule : Rule α} {c : Char} {t : Text} (h : rule (c :: t) = none) :
    pieces rule (c :: t) = .char c :: pieces rule t := by
  simp [pieces, piecesAfter, h]

theorem pieces_match {α : Type} {rule : Rule α} {m t : Text} {a : α} (hm : m ≠ [])
    (h : rule (m ++ t) = some (m.length, a)) :
    pieces rule (m ++ t) = .hit a :: pieces rule t := by
  cases m with
  | nil => exact absurd rfl hm
  | cons c m =>
    rw [List.cons_append] at h ⊢
    rw [pieces, piecesAfter, h]
    simp [piecesAfter_eq_drop]

end Text
end CommentDocs
