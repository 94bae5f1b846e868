import CommentDocs.Proofs.Text.Lines
import CommentDocs.Remark

/-!
# CommentDocs.Proofs.Comment.Conservation

Reading a body as remarks keeps all of its text. What remarks are made of is cut out of the body in
three ways, at line ends, at the ends of lines and between words, and each of them takes away blanks
only. So the characters that are not blank (`Text.ink`) stand in the remarks once and in order
(`Remark.ofBody_conserves`).
-/

namespace CommentDocs

namespace Text

/-! ## Ink -/

/-- The text without its blanks. -/
def ink (t : Text) : Text := t.filter fun c => !isBlank c

@[simp] theorem ink_nil : ink [] = [] := rfl

@[simp] theorem ink_append (s t : Text) : ink (s ++ t) = ink s ++ ink t := List.filter_append ..

theorem ink_cons_of_blank {c : Char} (hc : isBlank c = true) (t : Text) :
    ink (c :: t) = ink t := by
  simp [ink, hc]

theorem ink_cons_of_not_blank {c : Char} (hc : isBlank c = false) (t : Text) :
    ink (c :: t) = c :: ink t := by
  simp [ink, hc]

theorem ink_of_blank {t : Text} (h : ∀ c ∈ t, isBlank c = true) : ink t = [] := by
  rw [ink, List.filter_eq_nil_iff]
  intro c hc
  simp [h c hc]

theorem ink_of_free {t : Text} (h : ∀ c ∈ t, isBlank c = false) : ink t = t := by
  rw [ink, List.filter_eq_self]
  intro c hc
  simp [h c hc]

theorem ink_trim (t : Text) : ink (trim t) = ink t := by
  have hstart : ink (trimStart t) = ink t := by
    have hblank : ink (t.takeWhile isBlank) = [] :=
      ink_of_blank fun c hc => List.mem_takeWhile_imp hc
    have hcut : t.takeWhile isBlank ++ trimStart t = t := List.takeWhile_append_dropWhile
    rw [← hcut, ink_append, hblank, List.nil_append, hcut]
  have hend : ink (trimEnd (trimStart t)) = ink (trimStart t) := by
    have hblank : ink ((trimStart t).rtakeWhile isBlank) = [] :=
      ink_of_blank fun c hc => List.mem_rtakeWhile_imp hc
    have hcut : trimEnd (trimStart t) ++ (trimStart t).rtakeWhile isBlank = trimStart t :=
      List.rdropWhile_append_rtakeWhile
    rw [← hcut, ink_append, hblank, List.append_nil, hcut]
  rw [trim, hend, hstart]

theorem ink_lines (t : Text) : (lines t).flatMap ink = ink t := by
  induction t using line_induction with
  | last t h =>
    rw [lines_of_not_mem h]
    split
    · rename_i ht
      rw [ht]
      rfl
    · simp
  | cut u v hu ih =>
    have hchomp : ink (chomp u) = ink u := by rw [← ink_trim, trim_chomp, ink_trim]
    rw [lines_cut hu, List.flatMap_cons, ih, hchomp, ink_append, ink_cons_of_blank (by decide)]

theorem flatten_splitWhen (t : Text) : (splitWhen isBlank t).flatten = ink t := by
  induction t with
  | nil => rfl
  | cons c t ih =>
    rw [splitWhen]
    split
    · rename_i hc
      rw [ink_cons_of_blank hc, List.flatten_cons, ih, List.nil_append]
    · rename_i hc
      rw [ink_cons_of_not_blank (by simpa using hc), ← ih]
      cases hs : splitWhen isBlank t with
      | nil => exact absurd hs (splitWhen_ne_nil isBlank t)
      | cons w ws => rfl

theorem flatten_words (t : Text) : (words t).flatten = ink t := by
  rw [words, ← flatten_splitWhen t, List.flatten_filter_ne_nil]

theorem head?_trim (t : Text) : (trim t).head? = t.find? fun c => !isBlank c := by
  have hfind : (trimStart t).head? = t.find? fun c => !isBlank c :=
    (List.find?_not_eq_head?_dropWhile isBlank t).symm
  rw [← hfind, trim]
  cases hs : trimStart t with
  | nil => rfl
  | cons c u =>
    have hc : isBlank c = false := by
      rw [hs] at hfind
      simpa using List.find?_some hfind.symm
    rw [trimEnd_cons hc]
    rfl

end Text

namespace Remark

/-! ## What is written in remarks -/

/-- What a remark says, with the at sign that opened it. -/
def written (a : Remark) : Text := '@' :: (a.tag ++ a.label ++ a.text)

/-- The first character of the line that is not blank is an at sign. -/
def OpensRemark (line : Text) : Prop := (line.find? fun c => !Text.isBlank c) = some '@'

instance : DecidablePred OpensRemark :=
  fun line => inferInstanceAs (Decidable ((line.find? fun c => !Text.isBlank c) = some '@'))

theorem ink_intercalate (ws : List Text) :
    Text.ink (List.intercalate " " ws) = ws.flatMap Text.ink := by
  induction ws with
  | nil => rfl
  | cons w ws ih =>
    cases ws with
    | nil => simp
    | cons v ws =>
      have hspace : Text.ink " " = [] := by decide
      rw [List.intercalate_cons_cons, Text.ink_append, Text.ink_append, hspace, ih]
      simp

theorem ink_ofTagLine (t : Text) :
    Text.ink ((ofTagLine t).tag ++ (ofTagLine t).label ++ (ofTagLine t).text) = Text.ink t := by
  have hwords : (Text.words t).flatMap Text.ink = Text.ink t := by
    have hfree : ∀ w ∈ Text.words t, Text.ink w = w :=
      fun w hw => Text.ink_of_free (Text.of_mem_words hw).2
    rw [← Text.flatten_words t, List.flatMap_def, List.map_congr_left hfree, List.map_id']
  rw [← hwords, ofTagLine]
  cases Text.words t with
  | nil => rfl
  | cons tag ws =>
    cases ws with
    | nil => simp
    | cons label seeds =>
      rw [Text.ink_append, ink_intercalate]
      simp

/-- No ink of the lines is lost, whether it goes to the remark that is open before them or to those
that they open. -/
theorem ink_ofLines (lines : List Text) :
    Text.ink ((ofLines lines).1 ++ (ofLines lines).2.flatMap written) =
      lines.flatMap Text.ink := by
  induction lines with
  | nil => rfl
  | cons line lines ih =>
    rw [List.flatMap_cons, ← Text.ink_trim line, ← ih]
    simp only [ofLines]
    split
    · rename_i h
      simp [h]
    · rename_i t h
      have hat : ∀ u, Text.ink ('@' :: u) = '@' :: Text.ink u :=
        Text.ink_cons_of_not_blank (by decide)
      rw [h, hat, ← ink_ofTagLine t]
      simp [written, hat]
    · have hend : ∀ u, Text.ink ('\n' :: u) = Text.ink u := Text.ink_cons_of_blank (by decide)
      simp [hend]

theorem length_ofLines (lines : List Text) :
    (ofLines lines).2.length = lines.countP fun line => OpensRemark line := by
  induction lines with
  | nil => rfl
  | cons line lines ih =>
    have hopens : OpensRemark line ↔ (Text.trim line).head? = some '@' := by
      rw [OpensRemark, Text.head?_trim]
    rw [List.countP_cons, ← ih]
    simp only [ofLines]
    split
    · rename_i h
      simp [hopens, h]
    · rename_i t h
      simp [hopens, h]
    · rename_i h htag
      have hno : ¬OpensRemark line := by
        rw [hopens, List.head?_eq_some_iff]
        rintro ⟨t, ht⟩
        exact htag t ht
      simp [hno]

/-- The remarks of a body hold its characters other than blanks, each once and in order, and there
is one remark for the preamble and one for each line that starts with an at sign. -/
theorem ofBody_conserves (body : Text) :
    (∃ text rest, ofBody body = preamble text :: rest ∧
      Text.ink body = Text.ink (text ++ rest.flatMap written)) ∧
    (ofBody body).length = 1 + (Text.lines body).countP fun line => OpensRemark line := by
  refine ⟨⟨_, _, rfl, ?_⟩, ?_⟩
  · rw [ink_ofLines, Text.ink_lines]
  · rw [ofBody, List.length_cons, length_ofLines, Nat.add_comm]

end Remark
end CommentDocs
