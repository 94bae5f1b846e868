import CommentDocs.Sorting
import CommentDocs.Text.Basic

/-!
# CommentDocs.Disk.Path

Paths as they are written, and their components. Repeated slashes and inner single dots do not
count, a leading single dot and every double dot do. Paths are compared by their components, so two
spellings can be equal as paths; their order is that of the first component that differs, and a
path stands before the paths below it.
-/

namespace CommentDocs

abbrev Path := Text

namespace Path

inductive Component where
  | root
  | here
  | up
  | name (n : Text)
deriving DecidableEq

namespace Component

def text : Component → Text
  | .root => "/"
  | .here => "."
  | .up => ".."
  | .name n => n

def rank : Component → Nat
  | .root => 0
  | .here => 1
  | .up => 2
  | .name _ => 3

instance : Ord Component := ⟨compareLex (compareOn rank) (compareOn text)⟩

instance : Std.TransOrd Component :=
  inferInstanceAs (Std.TransCmp (compareLex (compareOn rank) (compareOn text)))

instance : Std.LawfulEqOrd Component where
  eq_of_compare {a b} h := by
    have h : (compare a.rank b.rank).then (compare a.text b.text) = .eq := h
    rw [Ordering.then_eq_eq, Std.LawfulEqOrd.compare_eq_iff_eq, Std.LawfulEqOrd.compare_eq_iff_eq]
      at h
    obtain ⟨hr, ht⟩ := h
    cases a <;> cases b <;> simp_all [rank, text]

end Component

def segments (p : Path) : List Text := Text.splitWhen (· = '/') p

def isAbsolute (p : Path) : Bool := p.head? = some '/'

/-- The component that a segment stands for, unless it does not count. -/
def component? (segment : Text) : Option Component :=
  if segment = [] ∨ segment = "." then none
  else if segment = ".." then some .up
  else some (.name segment)

def components (p : Path) : List Component :=
  let first : List Component :=
    if isAbsolute p then [.root] else if (segments p).head? = some "." then [.here] else []
  first ++ (segments p).filterMap component?

def order : Path → Path → Ordering := compareOn components

instance : Std.TransCmp order := inferInstanceAs (Std.TransCmp (compareOn components))

theorem order_eq_eq {p q : Path} : order p q = .eq ↔ components p = components q :=
  Std.LawfulEqOrd.compare_eq_iff_eq

def isHere (p : Path) : Bool := components p = [.here]

/-- The path of `q` seen from the directory `p`; an absolute path is the same from anywhere. -/
def join (p q : Path) : Path :=
  if isAbsolute q then q
  else if p = [] ∨ p.getLast? = some '/' then p ++ q
  else p ++ '/' :: q

def fileName? (p : Path) : Option Text :=
  match (components p).getLast? with
  | some (.name n) => some n
  | _ => none

/-- What stands behind the last dot of a name, unless that dot is the first character. -/
def nameExtension? (name : Text) : Option Text :=
  match Text.splitOnce '.' name.reverse with
  | none | some (_, []) => none
  | some (extension, _) => some extension.reverse

def extension? (p : Path) : Option Text := (fileName? p).bind nameExtension?

def ofComponents (cs : List Component) : Path :=
  cs.foldl (fun p c => join p c.text) []

/-- The directories above a path, the innermost first. -/
def parents (p : Path) : List Path :=
  let cs := components p
  (List.range cs.length).reverse.filterMap fun n =>
    if n = 0 then none else some (ofComponents (cs.take n))

/-- Leaves only the first of neighbours that are equal as paths. -/
def dedup : List Path → List Path
  | [] => []
  | p :: ps =>
    match dedup ps with
    | [] => [p]
    | q :: qs => if components p = components q then p :: qs else p :: q :: qs

/-- The paths in order, each once, in the spelling that came first. -/
def arrange (ps : List Path) : List Path := dedup (Sorting.sort order ps)

end Path
end CommentDocs
