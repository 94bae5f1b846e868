import CommentDocs.Proofs.Comment.Joint
import CommentDocs.Proofs.Text.Lines

/-!
# CommentDocs.Proofs.Comment.Closing

A closing marker on a line of its own behind a source text. It closes a comment that is still open,
and otherwise it is code. In both cases the remarks of the text stay as they are
(`Remark.ofSource_append_closing`), although the body of an open comment may change: its last line
ends now, and loses a carriage return. But a reader of remarks looks at trimmed lines only, so all
that counts of a line of a comment is what it says between blanks (`Comment.said`).

With that marker between them, any texts can be read as one (`Builder.read_intercalate`).
-/

namespace CommentDocs

/-! ## What is read of a line -/

namespace Remark

/-- The lines that are not blank, trimmed. -/
def essentials (lines : List Text) : List Text := (lines.map Text.trim).filter (· ≠ [])

theorem ofLines_eq (lines : List Text) : ofLines lines = ofLines (essentials lines) := by
  induction lines with
  | nil => rfl
  | cons line lines ih =>
    have hcons : essentials (line :: lines) =
        if Text.trim line = [] then essentials lines else Text.trim line :: essentials lines := by
      by_cases h : Text.trim line = []
      · simp [essentials, h]
      · simp [essentials, h]
    rw [hcons]
    split
    · rename_i h
      rw [ofLines, h, ih]
    · rw [ofLines, ofLines, Text.trim_trim, ih]

end Remark

namespace Comment

/-- What a line of a comment says, between blanks; `none` for a line that says nothing. -/
def said (line : Text) : Option Text := ((interior line).map Text.trim).filter (· ≠ [])

theorem not_mem_of_interior {line t : Text} (h : interior line = some t) (hl : '\n' ∉ line) :
    '\n' ∉ t := by
  have hsub : Text.trimStart line ⊆ line := (List.dropWhile_sublist Text.isBlank).subset
  rw [interior] at h
  split at h
  · rename_i hs; cases h
    exact fun hm => hl (hsub (by simp [hs, hm]))
  · rename_i hs; cases h
    exact fun hm => hl (hsub (by simp [hs, hm]))
  · cases h

/-- A body is read as its interior lines, each without the carriage return of its line end. -/
theorem lines_body (chunk : Text) : Text.lines (body chunk) =
    ((Text.lines (untilClose chunk)).filterMap interior).map Text.chomp := by
  refine Text.lines_unlines_chomp fun l hl => ?_
  obtain ⟨line, hline, hl⟩ := List.mem_filterMap.1 hl
  exact not_mem_of_interior hl (Text.not_mem_of_mem_lines hline)

theorem essentials_lines_body (chunk : Text) :
    Remark.essentials (Text.lines (body chunk)) =
      (Text.lines (untilClose chunk)).filterMap said := by
  have htrim : Text.trim ∘ Text.chomp = Text.trim := funext Text.trim_chomp
  rw [lines_body, Remark.essentials, List.map_map, htrim, List.map_filterMap,
    List.filter_filterMap]
  rfl

theorem interior_append_return (line : Text) :
    (interior (line ++ ['\r'])).map Text.trim = (interior line).map Text.trim := by
  have hblank : Text.isBlank '\r' = true := by decide
  have htrim : ∀ t : Text, Text.trim (t ++ ['\r']) = Text.trim t := Text.trim_append_blank hblank
  rw [interior, interior, Text.trimStart_append_blank hblank]
  cases hs : Text.trimStart line with
  | nil => rfl
  | cons c t =>
    rw [if_neg (List.cons_ne_nil c t)]
    by_cases hc : c = '*'
    · subst hc
      cases t with
      | nil => simpa using htrim []
      | cons d t =>
        by_cases hd : d = ' '
        · subst hd
          simpa using htrim t
        · simpa [hd] using htrim (d :: t)
    · simp [hc]

theorem said_chomp (line : Text) : said (Text.chomp line) = said line := by
  rcases Text.eq_chomp_or line with he | he
  · rw [← he]
  · have hreturn := interior_append_return (Text.chomp line)
    rw [← he] at hreturn
    rw [said, said, hreturn]

theorem said_lines_newline (t : Text) :
    (Text.lines (t ++ ['\n'])).filterMap said = (Text.lines t).filterMap said := by
  induction t using Text.line_induction with
  | last t ht =>
    have hcut : Text.lines (t ++ ['\n']) = [Text.chomp t] := Text.lines_cut ht []
    rw [hcut, Text.lines_of_not_mem ht]
    split
    · rename_i hnil
      rw [hnil]
      rfl
    · simp only [List.filterMap_cons, said_chomp]
  | cut u v hu ih =>
    rw [List.append_assoc, List.cons_append, Text.lines_cut hu, Text.lines_cut hu]
    simp only [List.filterMap_cons, ih]

/-! ## The closing line -/

/-- A closing marker on a line of its own. -/
def closing : Text := "\n*/\n"

theorem not_opens_append_closing {t : Text} (h : ¬("/**" : Text) <:+: t) :
    ¬("/**" : Text) <:+: t ++ closing := by
  intro hi
  have hcut : t ++ closing = t ++ '\n' :: "*/\n" := rfl
  rw [hcut] at hi
  rcases Text.infix_append_cons (by decide) hi with hi | hi
  · exact h hi
  · exact absurd hi (by decide)

theorem closed_append_closing (t : Text) : Closed (t ++ closing) := by
  rw [closed_iff]
  intro v hv
  by_cases ht : ("/**" : Text) <:+: t
  · obtain ⟨u, w, rfl, hw⟩ := exists_last_marker ht
    have hcut : u ++ '/' :: '*' :: '*' :: w ++ closing = u ++ "/**" ++ (w ++ closing) := by simp
    rw [hcut, getLast?_splitOpen (not_opens_append_closing hw)] at hv
    cases hv
    exact ⟨w ++ ['\n'], ['\n'], by simp [closing]⟩
  · rw [splitOpen_of_free (not_opens_append_closing ht)] at hv
    cases hv

/-- The body of a comment says the same whether a closing line follows it or not. -/
theorem ofBody_body_append_closing (t : Text) :
    Remark.ofBody (body (t ++ closing)) = Remark.ofBody (body t) := by
  have hessentials : Remark.essentials (Text.lines (body (t ++ closing))) =
      Remark.essentials (Text.lines (body t)) := by
    rw [essentials_lines_body, essentials_lines_body]
    by_cases hc : ("*/" : Text) <:+: t
    · rw [untilClose_append_of_closed hc]
    · have hc' : ¬("*/" : Text) <:+: t ++ ['\n'] := by
        intro hi
        rcases Text.infix_append_cons (by decide) hi with hi | hi
        · exact hc hi
        · exact absurd hi (by decide)
      have hcut : t ++ closing = (t ++ ['\n']) ++ '*' :: '/' :: ['\n'] := by simp [closing]
      rw [hcut, untilClose_append_closes hc', untilClose_of_free hc, said_lines_newline]
  rw [Remark.ofBody, Remark.ofBody, Remark.ofLines_eq, hessentials, ← Remark.ofLines_eq]

end Comment

theorem Remark.ofSource_append_closing (t : Text) :
    ofSource (t ++ Comment.closing) = ofSource t := by
  by_cases ht : ("/**" : Text) <:+: t
  · obtain ⟨u, v, rfl, hv⟩ := Comment.exists_last_marker ht
    have hv' := Comment.not_opens_append_closing hv
    rw [List.append_assoc, List.cons_append, List.cons_append, List.cons_append, ofSource,
      ofSource, Comment.bodies_append_marker, Comment.bodies_append_marker,
      Comment.bodies_of_free hv, Comment.bodies_of_free hv', Comment.splitOpen_of_free hv,
      Comment.splitOpen_of_free hv']
    simp only [List.flatMap_append, List.flatMap_cons, Comment.ofBody_body_append_closing]
  · rw [ofSource, ofSource, Comment.bodies_of_free ht,
      Comment.bodies_of_free (Comment.not_opens_append_closing ht)]

theorem Remark.ofSource_append_closing_append (x y : Text) :
    ofSource (x ++ (Comment.closing ++ y)) = ofSource x ++ ofSource y := by
  have hs : ¬Text.Straddles "/**" (x ++ Comment.closing) y := by
    have hcut : x ++ Comment.closing = x ++ "\n*/" ++ ['\n'] := by simp [Comment.closing]
    rw [hcut]
    exact Text.not_straddles_concat (by decide) _ y
  rw [← List.append_assoc, ofSource_append (Comment.closed_append_closing x) hs,
    ofSource_append_closing]

/-- Texts with closing lines between them are read as they are one after the other. -/
theorem Builder.read_intercalate (b : Builder) (sources : List Text) :
    b.read (Comment.closing.intercalate sources) = b.readAll sources := by
  induction sources generalizing b with
  | nil => rfl
  | cons source sources ih =>
    cases sources with
    | nil =>
      rw [List.intercalate_singleton]
      simp [readAll]
    | cons next sources =>
      rw [List.intercalate_cons_cons, List.append_assoc, read_eq,
        Remark.ofSource_append_closing_append, applyAll_append, readAll, ← read_eq, ← read_eq, ih]

end CommentDocs
