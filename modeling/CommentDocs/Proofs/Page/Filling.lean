import CommentDocs.Page.Template

/-!
# CommentDocs.Proofs.Page.Filling

How a template is filled in, from left to right: text without a percent sign stays as it is
(`fill_append`), and a placeholder without an argument is expanded (`fill_placeholder`).
-/

namespace CommentDocs

namespace Placeholder

theorem find_of_ne {c : Char} (h : c ≠ '%') (t : Text) : find (c :: t) = none := by
  unfold find
  split
  · rename_i heq
    exact absurd (List.cons.inj heq).1 h
  · rfl

/-- A placeholder as it is written if it has no argument. -/
def bare (name : Text) : Placeholder := ⟨'%' :: '(' :: (name ++ [')']), name, []⟩

theorem find_bare {name : Text} (hne : name ≠ []) (h : name.all isNameChar) (t : Text) :
    find ((bare name).source ++ t) = some ((bare name).source.length, bare name) := by
  have hsource : (bare name).source ++ t = '%' :: '(' :: (name ++ ')' :: t) := by simp [bare]
  have hname := List.all_eq_true.1 h
  have htake : (name ++ ')' :: t).takeWhile isNameChar = name := by
    rw [List.takeWhile_append_of_pos hname, List.takeWhile_cons_of_neg (by decide), List.append_nil]
  have hdrop : (name ++ ')' :: t).dropWhile isNameChar = ')' :: t := by
    rw [List.dropWhile_append_of_pos hname, List.dropWhile_cons_of_neg (by decide)]
  have hlength : (bare name).source.length = name.length + 3 := by simp [bare]
  have hfront : ('%' :: '(' :: (name ++ ')' :: t)).take (name.length + 3) = (bare name).source := by
    rw [← hsource, ← hlength, List.take_left]
  rw [hsource, find, hlength]
  simp only [htake, hdrop, if_neg hne, hfront]
  rfl

end Placeholder

namespace Template

variable (contents index : Text) (fragments : Fragments)

theorem fill_text (template : Text) :
    (fill template contents index fragments).1 =
      (Text.pieces Placeholder.find template).flatMap
        fun p => (expandPiece contents index fragments p).1 := by
  simp only [fill, List.flatMap_map]

theorem fill_append {s : Text} (h : '%' ∉ s) (t : Text) :
    (fill (s ++ t) contents index fragments).1 = s ++ (fill t contents index fragments).1 := by
  induction s with
  | nil => rfl
  | cons c s ih =>
    rw [List.mem_cons, not_or] at h
    rw [fill_text, List.cons_append, Text.pieces_char (Placeholder.find_of_ne (Ne.symm h.1) _),
      List.flatMap_cons, ← fill_text, ih h.2]
    rfl

theorem fill_of_not_mem {s : Text} (h : '%' ∉ s) : (fill s contents index fragments).1 = s := by
  have hnil : (fill [] contents index fragments).1 = [] := rfl
  have := fill_append contents index fragments h []
  rwa [hnil, List.append_nil] at this

theorem fill_placeholder {name : Text} (hne : name ≠ [])
    (h : name.all Placeholder.isNameChar) (t : Text) :
    (fill ((Placeholder.bare name).source ++ t) contents index fragments).1 =
      (expand contents index fragments (Placeholder.bare name)).1 ++
        (fill t contents index fragments).1 := by
  have hsource : (Placeholder.bare name).source ≠ [] := List.cons_ne_nil _ _
  rw [fill_text, Text.pieces_match hsource (Placeholder.find_bare hne h t), List.flatMap_cons,
    ← fill_text]
  rfl

theorem fill_contents : (fill "%(contents)" contents index fragments).1 = contents := by
  have hbare : ("%(contents)" : Text) = (Placeholder.bare "contents").source ++ [] := by decide
  rw [hbare, fill_placeholder _ _ _ (by decide) (by decide)]
  exact List.append_nil _

end Template
end CommentDocs
