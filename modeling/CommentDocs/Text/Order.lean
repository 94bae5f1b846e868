import CommentDocs.Text.Basic

/-!
# CommentDocs.Text.Order

Order of text. The plain order goes by code point, which is also the order of the UTF-8 bytes. In
listings letter case counts last: texts are compared folded first, and as they stand only where
their folded forms agree, so that the order stays total. The folding is a parameter; no law of the
order depends on it.
-/

namespace CommentDocs
namespace Text

def compareFolded (fold : Text → Text) : Text → Text → Ordering :=
  compareLex (compareOn fold) compare

instance (fold : Text → Text) : Std.TransCmp (compareFolded fold) :=
  inferInstanceAs (Std.TransCmp (compareLex (compareOn fold) compare))

theorem compareFolded_eq_eq {fold : Text → Text} {a b : Text} :
    compareFolded fold a b = .eq ↔ a = b := by
  rw [compareFolded, compareLex, Ordering.then_eq_eq, compareOn,
    Std.LawfulEqOrd.compare_eq_iff_eq, Std.LawfulEqOrd.compare_eq_iff_eq]
  exact ⟨And.right, fun h => ⟨congrArg fold h, h⟩⟩

end Text
end CommentDocs
