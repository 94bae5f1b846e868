import CommentDocs.Text.Basic
import CommentDocs.Text.CharRanges

/-!
# CommentDocs.Text.Blank

Blank characters and what is done with them: trimming and cutting into words. A character is blank
if it has the Unicode property White_Space, so the no-break space and the ideographic space are
blank and the zero-width space is not.
-/

namespace CommentDocs
namespace Text

/-- The characters with the property White_Space. -/
def blankRanges : CharRanges :=
  [(0x9, 0xD), (0x20, 0x20), (0x85, 0x85), (0xA0, 0xA0), (0x1680, 0x1680), (0x2000, 0x200A),
    (0x2028, 0x2029), (0x202F, 0x202F), (0x205F, 0x205F), (0x3000, 0x3000)]

def isBlank (c : Char) : Bool := blankRanges.holds c

def trimStart (t : Text) : Text := t.dropWhile isBlank

def trimEnd (t : Text) : Text := (t.reverse.dropWhile isBlank).reverse

def trim (t : Text) : Text := trimEnd (trimStart t)

/-- The longest pieces without a blank. -/
def words (t : Text) : List Text := (splitWhen isBlank t).filter (· ≠ [])

theorem of_mem_words {t w : Text} (h : w ∈ words t) : w ≠ [] ∧ ∀ c ∈ w, isBlank c = false := by
  rw [words, List.mem_filter] at h
  exact ⟨by simpa using h.2, splitWhen_free h.1⟩

theorem words_append_blank {c : Char} (h : isBlank c = true) (x y : Text) :
    words (x ++ c :: y) = words x ++ words y := by
  rw [words, splitWhen_append_cons h, List.filter_append, words, words]

end Text
end CommentDocs
