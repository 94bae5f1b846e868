import CommentDocs.Proofs.Comment.Closing
import CommentDocs.Proofs.Text.Descriptions

/-!
# CommentDocs.Proofs.Comment.Labels

The form of what remarks say. The text of a comment is cut at opening markers and ends at a closing
one, so nothing that is taken out of it in one piece holds a marker
(`Comment.unmarked_of_mem_lines_body`), and labels are words of it (`IsLabel`). The rest of a remark
is put together: words with single spaces, then trimmed lines, so it has the form of a description,
also with the label in front (`Remark.wellFormed_of_mem_ofSource`).
-/

namespace CommentDocs
namespace Comment

/-! ## Markers -/

theorem not_infix_cons {m u t : Text} {c : Char} (hc : ¬m <+: c :: t) (hfront : u <+: t)
    (hu : ¬m <:+: u) : ¬m <:+: c :: u := by
  intro hm
  rcases List.infix_cons_iff.1 hm with hm | hm
  · exact hc (hm.trans (List.cons_prefix_cons.2 ⟨rfl, hfront⟩))
  · exact hu hm

theorem isPrefix_splitOpen (t : Text) : (splitOpen t).1 <+: t := by
  have hne : ("/**" : Text) ≠ [] := by decide
  induction t using Text.occurrence_induction hne with
  | nil => exact List.nil_prefix
  | hit t _ => exact List.nil_prefix
  | char c t hc ih =>
    rw [splitOpen_cons hc]
    exact List.cons_prefix_cons.2 ⟨rfl, ih⟩

theorem not_opens_of_mem_splitOpen (t : Text) :
    ∀ piece ∈ (splitOpen t).1 :: (splitOpen t).2, ¬("/**" : Text) <:+: piece := by
  have hne : ("/**" : Text) ≠ [] := by decide
  have hnil : ¬("/**" : Text) <:+: [] := by decide
  induction t using Text.occurrence_induction hne with
  | nil => exact List.forall_mem_singleton.2 hnil
  | hit t ih => exact List.forall_mem_cons.2 ⟨hnil, ih⟩
  | char c t hc ih =>
    obtain ⟨hfirst, hrest⟩ := List.forall_mem_cons.1 ih
    rw [splitOpen_cons hc]
    exact List.forall_mem_cons.2 ⟨not_infix_cons hc (isPrefix_splitOpen t) hfirst, hrest⟩

theorem isPrefix_untilClose (t : Text) : untilClose t <+: t := by
  have hne : ("*/" : Text) ≠ [] := by decide
  induction t using Text.occurrence_induction hne with
  | nil => exact List.nil_prefix
  | hit t _ => exact List.nil_prefix
  | char c t hc ih =>
    rw [untilClose_cons hc]
    exact List.cons_prefix_cons.2 ⟨rfl, ih⟩

theorem not_closes_untilClose (t : Text) : ¬("*/" : Text) <:+: untilClose t := by
  have hne : ("*/" : Text) ≠ [] := by decide
  have hnil : ¬("*/" : Text) <:+: [] := by decide
  induction t using Text.occurrence_induction hne with
  | nil => exact hnil
  | hit t _ => exact hnil
  | char c t hc ih =>
    rw [untilClose_cons hc]
    exact not_infix_cons hc (isPrefix_untilClose t) ih

end Comment

/-! ## Pieces of a text -/

namespace Text

theorem isInfix_chomp (t : Text) : chomp t <:+: t := by
  rcases eq_chomp_or t with h | h
  · rw [← h]
  · exact ⟨[], ['\r'], h.symm⟩

theorem isInfix_of_mem_lines {l t : Text} (h : l ∈ lines t) : l <:+: t := by
  induction t using line_induction with
  | last t ht =>
    rw [lines_of_not_mem ht] at h
    split at h
    · cases h
    · rw [List.mem_singleton.1 h]
  | cut u v hu ih =>
    rw [lines_cut hu] at h
    rcases List.mem_cons.1 h with rfl | h
    · exact (isInfix_chomp u).trans (List.prefix_append u _).isInfix
    · have hv : v <:+ u ++ '\n' :: v := ⟨u ++ ['\n'], by simp⟩
      exact (ih h).trans hv.isInfix

theorem isInfix_splitWhen (p : Char → Bool) (t : Text) :
    (∀ w ∈ (splitWhen p t).head?, w <+: t) ∧ ∀ w ∈ splitWhen p t, w <:+: t := by
  fun_induction splitWhen p t with
  | case1 => simp
  | case2 c t hc ih =>
    refine ⟨by simp, List.forall_mem_cons.2 ⟨List.nil_infix, fun w hw => ?_⟩⟩
    exact List.infix_cons_iff.2 (.inr (ih.2 w hw))
  | case3 c t hc hs ih => exact absurd hs (splitWhen_ne_nil p t)
  | case4 c t hc v vs hs ih =>
    rw [hs] at ih
    obtain ⟨hfirst, hrest⟩ := ih
    have hv : c :: v <+: c :: t := List.cons_prefix_cons.2 ⟨rfl, hfirst v rfl⟩
    constructor
    · rintro _ ⟨⟩
      exact hv
    · refine List.forall_mem_cons.2 ⟨hv.isInfix, fun w hw => ?_⟩
      exact List.infix_cons_iff.2 (.inr (hrest w (List.mem_cons_of_mem v hw)))

theorem isInfix_of_mem_words {w t : Text} (h : w ∈ words t) : w <:+: t :=
  (isInfix_splitWhen isBlank t).2 w (List.mem_of_mem_filter h)

end Text

namespace Comment

theorem isInfix_of_interior {line t : Text} (h : interior line = some t) : t <:+: line := by
  have hstart : Text.trimStart line <:+: line := (List.dropWhile_suffix Text.isBlank).isInfix
  rw [interior] at h
  split at h
  · rename_i hs; cases h
    rw [hs] at hstart
    exact (List.suffix_append ['*', ' '] t).isInfix.trans hstart
  · rename_i hs; cases h
    rw [hs] at hstart
    exact (List.suffix_cons '*' t).isInfix.trans hstart
  · cases h

/-- The lines of a comment have no markers. -/
theorem unmarked_of_mem_lines_body {chunk line : Text} (hchunk : ¬("/**" : Text) <:+: chunk)
    (h : line ∈ Text.lines (body chunk)) : Unmarked line := by
  have hclosed : Unmarked (untilClose chunk) :=
    ⟨fun hm => hchunk (hm.trans (isPrefix_untilClose chunk).isInfix), not_closes_untilClose chunk⟩
  rw [lines_body] at h
  obtain ⟨inside, hinside, rfl⟩ := List.mem_map.1 h
  obtain ⟨starred, hstarred, hinside⟩ := List.mem_filterMap.1 hinside
  refine hclosed.of_isInfix ((Text.isInfix_chomp inside).trans ?_)
  exact (isInfix_of_interior hinside).trans (Text.isInfix_of_mem_lines hstarred)

end Comment

/-! ## Remarks -/

/-- The form of a name, a type or any other label: no blank and no comment marker in it. -/
structure IsLabel (t : Text) : Prop extends Comment.Unmarked t where
  not_blank : ∀ c ∈ t, Text.isBlank c = false

theorem isLabel_nil : IsLabel [] := ⟨⟨by decide, by decide⟩, by simp⟩

theorem IsLabel.isTrimmed {t : Text} (h : IsLabel t) : t = [] ∨ t.IsTrimmed := by
  by_cases ht : t = []
  · exact .inl ht
  · exact .inr (.of_free ht h.not_blank)

namespace Remark

/-- The form of a remark. Its text is a description, and so are its label and its text in one. -/
structure WellFormed (a : Remark) : Prop where
  label : IsLabel a.label
  text : a.text.IsDescription
  joined : (a.label ++ a.text).IsDescription

theorem wellFormed_of_text {tag label text : Text} (hlabel : IsLabel label)
    (htext : text.IsDescription) : WellFormed ⟨tag, label, text⟩ :=
  ⟨hlabel, htext, htext.prepend hlabel.isTrimmed (Text.newline_not_mem_of_free hlabel.not_blank)⟩

theorem wellFormed_ofTagLine {line more : Text} (hline : Comment.Unmarked line)
    (hmore : more.IsDescription) :
    WellFormed ⟨(ofTagLine line).tag, (ofTagLine line).label, (ofTagLine line).text ++ more⟩ := by
  rw [ofTagLine]
  split
  · exact wellFormed_of_text isLabel_nil hmore
  · exact wellFormed_of_text isLabel_nil hmore
  · rename_i tag label seeds hwords
    have hword : ∀ w ∈ label :: seeds, w ∈ Text.words line := fun w hw => by
      rw [hwords]
      exact List.mem_cons_of_mem tag hw
    have hlabel : IsLabel label := by
      have hmem := hword label (List.mem_cons_self ..)
      exact ⟨hline.of_isInfix (Text.isInfix_of_mem_words hmem), (Text.of_mem_words hmem).2⟩
    refine wellFormed_of_text hlabel ?_
    by_cases hseeds : seeds = []
    · rw [hseeds]
      exact hmore
    · obtain ⟨htrimmed, hnewline⟩ := Text.isTrimmed_intercalate hseeds fun w hw =>
        Text.of_mem_words (hword w (List.mem_cons_of_mem label hw))
      exact hmore.prepend (.inr htrimmed) hnewline

/-- What lines add to the remark before them are trimmed lines, and the remarks that they open are
well-formed. -/
theorem wellFormed_ofLines {lines : List Text}
    (h : ∀ l ∈ lines, Comment.Unmarked l ∧ '\n' ∉ l) :
    (∃ ls, (ofLines lines).1 = Text.unlines ls ∧ ∀ l ∈ ls, l.IsTrimmed ∧ '\n' ∉ l) ∧
      ∀ a ∈ (ofLines lines).2, a.WellFormed := by
  induction lines with
  | nil => exact ⟨⟨[], rfl, by simp⟩, by simp [ofLines]⟩
  | cons line lines ih =>
    obtain ⟨⟨hunmarked, hnewline⟩, hlines⟩ := List.forall_mem_cons.1 h
    obtain ⟨⟨ls, hmore, hls⟩, hrest⟩ := ih hlines
    have htrim := Text.isInfix_trim line
    simp only [ofLines]
    split
    · exact ⟨⟨ls, hmore, hls⟩, hrest⟩
    · -- A tag line: what the lines behind it add belongs to the remark that it opens.
      rename_i t ht
      rw [ht] at htrim
      have hline : Comment.Unmarked t :=
        hunmarked.of_isInfix ((List.suffix_cons '@' t).isInfix.trans htrim)
      refine ⟨⟨[], rfl, by simp⟩, List.forall_mem_cons.2 ⟨?_, hrest⟩⟩
      rw [hmore]
      exact wellFormed_ofTagLine hline (Text.isDescription_unlines hls)
    · rename_i hne _
      refine ⟨⟨Text.trim line :: ls, ?_, ?_⟩, hrest⟩
      · rw [Text.unlines_cons, ← hmore]
      · refine List.forall_mem_cons.2 ⟨⟨Text.isTrimmed_trim hne, fun hm => hnewline ?_⟩, hls⟩
        exact htrim.subset hm

theorem wellFormed_of_mem_ofSource {source : Text} {a : Remark} (h : a ∈ ofSource source) :
    a.WellFormed := by
  obtain ⟨body, hbody, ha⟩ := List.mem_flatMap.1 h
  obtain ⟨chunk, hchunk, rfl⟩ := List.mem_map.1 hbody
  have hopens := Comment.not_opens_of_mem_splitOpen source chunk (List.mem_cons_of_mem _ hchunk)
  obtain ⟨⟨ls, htext, hls⟩, hrest⟩ := wellFormed_ofLines fun line hline =>
    ⟨Comment.unmarked_of_mem_lines_body hopens hline, Text.not_mem_of_mem_lines hline⟩
  rw [ofBody] at ha
  rcases List.mem_cons.1 ha with rfl | ha
  · rw [htext]
    exact wellFormed_of_text isLabel_nil (Text.isDescription_unlines hls)
  · exact hrest a ha

end Remark
end CommentDocs
