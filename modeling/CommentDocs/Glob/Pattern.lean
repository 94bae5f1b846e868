import CommentDocs.Text.Basic

/-!
# CommentDocs.Glob.Pattern

File name patterns. A question mark stands for one character, a star for any number of them, a
bracket for one character of a set or, after an exclamation mark, for one outside it. Two stars
stand for any number of directories and must be a whole component of a path.

`read` takes a pattern apart or says where it is malformed; `fits` decides whether a name fits. A
star fits whatever stands in front of an end that the tokens behind it fit (`fits_sequence_iff`),
any other token fits one character (`fits_single_cons`).
-/

namespace CommentDocs
namespace Glob

/-- A member of a bracket: one character, or all characters from one to another. -/
inductive CharSet where
  | single (c : Char)
  | range (first last : Char)
deriving DecidableEq

inductive Token where
  | char (c : Char)
  | anyChar
  | anySequence
  | anyDirectories
  | within (sets : List CharSet)
  | outside (sets : List CharSet)
deriving DecidableEq

/-- What is wrong with a pattern, and where, counted in characters. -/
inductive PatternError where
  | tooManyStars (position : Nat)
  | partialComponent (position : Nat)
  | badBracket (position : Nat)
deriving DecidableEq

namespace PatternError

def position : PatternError → Nat
  | .tooManyStars n | .partialComponent n | .badBracket n => n

def problem : PatternError → Text
  | .tooManyStars _ => "wildcards are either regular `*` or recursive `**`"
  | .partialComponent _ => "recursive wildcards must form a single path component"
  | .badBracket _ => "invalid range pattern"

def message (e : PatternError) : Text :=
  "Pattern syntax error near position " ++ Text.ofNat e.position ++ ": " ++ e.problem

end PatternError

/-! ## Reading -/

def charSets : Text → List CharSet
  | first :: '-' :: last :: t => .range first last :: charSets t
  | c :: t => .single c :: charSets t
  | [] => []

/-- The token of the bracket at the front of `t`, the text behind an opening bracket, and the number
of characters that it takes from `t`. The first character of the set may be a closing bracket. -/
def bracket? (t : Text) : Option (Token × Nat) :=
  match t with
  | '!' :: first :: rest =>
    if ']' ∉ rest then none
    else
      let members := first :: rest.takeWhile (· ≠ ']')
      some (.outside (charSets members), members.length + 2)
  | '!' :: [] => none
  | first :: rest =>
    if ']' ∉ rest then none
    else
      let members := first :: rest.takeWhile (· ≠ ']')
      some (.within (charSets members), members.length + 1)
  | [] => none

def readFrom (before : Option Char) (position : Nat) (t : Text) :
    Except PatternError (List Token) :=
  match t with
  | [] => .ok []
  | '*' :: '*' :: '*' :: _ => .error (.tooManyStars (position + 2))
  | '*' :: '*' :: rest =>
    if before ≠ none ∧ before ≠ some '/' then .error (.partialComponent (position - 1))
    else
      match rest with
      | [] => .ok [.anyDirectories]
      | c :: rest =>
        if c = '/' then (readFrom (some '/') (position + 3) rest).map (.anyDirectories :: ·)
        else .error (.partialComponent (position + 2))
  | '*' :: rest => (readFrom (some '*') (position + 1) rest).map (.anySequence :: ·)
  | '?' :: rest => (readFrom (some '?') (position + 1) rest).map (.anyChar :: ·)
  | '[' :: rest =>
    match bracket? rest with
    | none => .error (.badBracket position)
    | some (token, n) =>
      (readFrom (some ']') (position + 1 + n) (rest.drop n)).map (token :: ·)
  | c :: rest => (readFrom (some c) (position + 1) rest).map (.char c :: ·)
termination_by t.length
decreasing_by all_goals simp_all <;> omega

def read (pattern : Text) : Except PatternError (List Token) := readFrom none 0 pattern

/-! ## Matching -/

def CharSet.holds (c : Char) : CharSet → Bool
  | .single d => c = d
  | .range first last => first ≤ c && c ≤ last

def Token.holds (c : Char) : Token → Bool
  | .char d => c = d
  | .anyChar | .anySequence | .anyDirectories => true
  | .within sets => sets.any (·.holds c)
  | .outside sets => !sets.any (·.holds c)

def Token.isSequence : Token → Bool
  | .anySequence | .anyDirectories => true
  | _ => false

/-- For a text and each of its ends in turn, whether it is empty. -/
def emptyEnds : Text → List Bool
  | [] => [true]
  | _ :: name => false :: emptyEnds name

/-- For a text and each of its ends in turn, whether the token and the tokens behind it fit, given
the answers of the tokens behind it. -/
def Token.fitEnds (token : Token) : Text → List Bool → List Bool
  | c :: name, here :: shorter =>
    let ends := token.fitEnds name shorter
    if token.isSequence then (here || ends.headD false) :: ends
    else (token.holds c && shorter.headD false) :: ends
  | _, answers => if token.isSequence then answers else [false]

/-- For a name and each of its ends in turn, the longest first, whether the tokens fit. Every token
looks at every character once, so many stars in a pattern cost no more than as many other tokens. -/
def fitEnds : List Token → Text → List Bool
  | [], name => emptyEnds name
  | token :: rest, name => token.fitEnds name (fitEnds rest name)

def fits (tokens : List Token) (name : Text) : Bool := (fitEnds tokens name).headD false

theorem fitEnds_empty (tokens : List Token) : fitEnds tokens [] = [fits tokens []] := by
  induction tokens with
  | nil => rfl
  | cons token rest ih =>
    rw [fits, fitEnds, ih]
    cases h : token.isSequence <;> simp [Token.fitEnds, h]

theorem fitEnds_cons (tokens : List Token) (c : Char) (name : Text) :
    fitEnds tokens (c :: name) = fits tokens (c :: name) :: fitEnds tokens name := by
  induction tokens with
  | nil => rfl
  | cons token rest ih =>
    rw [fits, fitEnds, fitEnds, ih]
    cases h : token.isSequence <;> simp [Token.fitEnds, h]

theorem fits_nil (name : Text) : fits [] name = name.isEmpty := by
  cases name <;> rfl

theorem fits_sequence_nil {token : Token} (h : token.isSequence = true) (rest : List Token) :
    fits (token :: rest) [] = fits rest [] := by
  rw [fits, fitEnds, fitEnds_empty]
  simp [Token.fitEnds, h]

theorem fits_sequence_cons {token : Token} (h : token.isSequence = true) (rest : List Token)
    (c : Char) (name : Text) :
    fits (token :: rest) (c :: name) = (fits rest (c :: name) || fits (token :: rest) name) := by
  rw [fits, fitEnds, fitEnds_cons]
  simp [Token.fitEnds, h, fits, fitEnds]

/-- A sequence fits whatever stands in front of an end that the other tokens fit. -/
theorem fits_sequence_iff {token : Token} (h : token.isSequence = true) {rest : List Token}
    {name : Text} :
    fits (token :: rest) name = true ↔ ∃ a b, name = a ++ b ∧ fits rest b = true := by
  induction name with
  | nil =>
    rw [fits_sequence_nil h]
    constructor
    · intro hr
      exact ⟨[], [], rfl, hr⟩
    · rintro ⟨a, b, hab, hb⟩
      rw [(List.append_eq_nil_iff.1 hab.symm).2] at hb
      exact hb
  | cons c name ih =>
    rw [fits_sequence_cons h, Bool.or_eq_true, ih]
    constructor
    · rintro (hr | ⟨a, b, rfl, hb⟩)
      · exact ⟨[], c :: name, rfl, hr⟩
      · exact ⟨c :: a, b, rfl, hb⟩
    · rintro ⟨a, b, hab, hb⟩
      cases a with
      | nil => exact .inl (by rw [hab]; exact hb)
      | cons d a =>
        injection hab with _ hab
        exact .inr ⟨a, b, hab, hb⟩

theorem fits_single_nil {token : Token} (h : token.isSequence = false) (rest : List Token) :
    fits (token :: rest) [] = false := by
  rw [fits, fitEnds, fitEnds_empty]
  simp [Token.fitEnds, h]

/-- Any other token stands for one character. -/
theorem fits_single_cons {token : Token} (h : token.isSequence = false) (rest : List Token)
    (c : Char) (name : Text) :
    fits (token :: rest) (c :: name) = (token.holds c && fits rest name) := by
  rw [fits, fitEnds, fitEnds_cons]
  simp [Token.fitEnds, h, fits]

def plain? : List Token → Option Text
  | [] => some []
  | .char c :: rest => (plain? rest).map (c :: ·)
  | _ => none

end Glob
end CommentDocs
