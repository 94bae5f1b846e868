import CommentDocs.Proofs.Comment.Cuts
import CommentDocs.Proofs.Text.Lines
import CommentDocs.Remark

/-!
# CommentDocs.Proofs.Comment.Written

Comments as authors write them, between passages of code. `WrittenSource.text` prints such a source,
each line of a comment behind a star, and `bodies_text` says that finding the comments of that text
and reading their bodies gives back what was written.

Two things carry the proof. No marker arises that was not printed as one: a marker holds no line end
and no space, so it would have to lie within one line, or within one word of a tag line. And every
printed line is read as it was, since it neither holds a line end nor ends in a carriage return.
-/

namespace CommentDocs

/-- A tag, a label or another word of a tag line. -/
structure IsWord (t : Text) : Prop where
  ne_nil : t ≠ []
  blank_free : t.all (fun c => !Text.isBlank c) = true
  unmarked : Comment.Unmarked t

/-- A line that opens no remark. -/
structure IsProse (t : Text) : Prop where
  ne_nil : t ≠ []
  trimmed : Text.trim t = t
  newline_free : '\n' ∉ t
  no_tag : t.head? ≠ some '@'
  unmarked : Comment.Unmarked t

instance (t : Text) : Decidable (IsWord t) :=
  decidable_of_iff (t ≠ [] ∧ t.all (fun c => !Text.isBlank c) = true ∧ Comment.Unmarked t)
    ⟨fun ⟨h1, h2, h3⟩ => ⟨h1, h2, h3⟩, fun h => ⟨h.ne_nil, h.blank_free, h.unmarked⟩⟩

instance (t : Text) : Decidable (IsProse t) :=
  decidable_of_iff (t ≠ [] ∧ Text.trim t = t ∧ '\n' ∉ t ∧ t.head? ≠ some '@' ∧ Comment.Unmarked t)
    ⟨fun ⟨h1, h2, h3, h4, h5⟩ => ⟨h1, h2, h3, h4, h5⟩,
      fun h => ⟨h.ne_nil, h.trimmed, h.newline_free, h.no_tag, h.unmarked⟩⟩

/-! ## What is written -/

/-- A remark as it is written: a tag line, which may end in spaces, and further lines. The first of
the words behind the tag is the label, the others start the text. -/
structure WrittenRemark where
  tag : Text
  words : List Text
  spaces : Nat
  continuation : List Text
  tag_isWord : IsWord tag
  words_isWord : ∀ w ∈ words, IsWord w
  continuation_isProse : ∀ l ∈ continuation, IsProse l

structure WrittenComment where
  preamble : List Text
  remarks : List WrittenRemark
  preamble_isProse : ∀ l ∈ preamble, IsProse l

/-- A comment and the code up to the next one. -/
structure Passage where
  comment : WrittenComment
  code : Text
  code_free : ¬("/**" : Text) <:+: code
  code_start : ¬("**" : Text) <+: code

structure WrittenSource where
  front : Text
  passages : List Passage
  front_free : ¬("/**" : Text) <:+: front

namespace WrittenRemark

def tagLine (r : WrittenRemark) : Text :=
  '@' :: (List.intercalate " " (r.tag :: r.words) ++ List.replicate r.spaces ' ')

def lines (r : WrittenRemark) : List Text := r.tagLine :: r.continuation

def remark (r : WrittenRemark) : Remark :=
  ⟨r.tag, r.words.headD [], List.intercalate " " r.words.tail ++ Text.unlines r.continuation⟩

end WrittenRemark

namespace WrittenComment

def lines (c : WrittenComment) : List Text := c.preamble ++ c.remarks.flatMap WrittenRemark.lines

def starred (line : Text) : Text := " * " ++ line

def text (c : WrittenComment) : Text := "/**\n" ++ Text.unlines (c.lines.map starred) ++ " */"

/-- The remarks that are meant, with the preamble in front. -/
def annotations (c : WrittenComment) : List Remark :=
  Remark.preamble (Text.unlines c.preamble) :: c.remarks.map WrittenRemark.remark

end WrittenComment

def WrittenSource.text (s : WrittenSource) : Text :=
  s.front ++ s.passages.flatMap fun p => p.comment.text ++ p.code

/-! ## Printed lines -/

theorem IsWord.not_isBlank {w : Text} (h : IsWord w) : ∀ c ∈ w, Text.isBlank c = false := by
  intro c hc
  have := List.all_eq_true.1 h.blank_free c hc
  simpa using this

structure IsPrintable (t : Text) : Prop where
  line : Text.IsLine t
  unmarked : Comment.Unmarked t

theorem IsProse.isPrintable {t : Text} (h : IsProse t) : IsPrintable t := by
  refine ⟨⟨h.newline_free, ?_⟩, h.unmarked⟩
  intro hlast
  have hblank := Text.isBlank_getLast h.trimmed h.ne_nil
  rw [List.getLast?_eq_some_getLast h.ne_nil] at hlast
  rw [Option.some.inj hlast] at hblank
  exact absurd hblank (by decide)

namespace WrittenRemark

theorem isWord_of_mem {r : WrittenRemark} : ∀ w ∈ r.tag :: r.words, IsWord w := by
  intro w hw
  rcases List.mem_cons.1 hw with rfl | hw
  · exact r.tag_isWord
  · exact r.words_isWord w hw

theorem words_tagLine (r : WrittenRemark) :
    Text.words (List.intercalate " " (r.tag :: r.words) ++ List.replicate r.spaces ' ') =
      r.tag :: r.words := by
  have hspaces : ∀ c ∈ List.replicate r.spaces ' ', Text.isBlank c = true := by
    intro c hc
    rw [List.eq_of_mem_replicate hc]
    decide
  have hkeep : (r.tag :: r.words).filter (· ≠ []) = r.tag :: r.words := by
    refine List.filter_eq_self.2 fun w hw => ?_
    simpa using (isWord_of_mem w hw).ne_nil
  rw [Text.words_append_blanks _ hspaces,
    Text.words_intercalate fun w hw => (isWord_of_mem w hw).not_isBlank, hkeep]

/-- A text without spaces lies in a tag line only if it lies in one of its words. -/
theorem not_infix_tagLine {r : WrittenRemark} {p : Text} (hs : ' ' ∉ p) (hne : p ≠ [])
    (hat : p.head? ≠ some '@') (hw : ∀ w ∈ r.tag :: r.words, ¬p <:+: w) : ¬p <:+: r.tagLine := by
  have hwords := Text.not_infix_intercalate hs hne hw
  intro h
  cases p with
  | nil => exact hne rfl
  | cons x p =>
    have hx : '@' ≠ x := by
      rintro rfl
      exact hat rfl
    have hline := Text.infix_of_infix_cons hx h
    cases hn : r.spaces with
    | zero =>
      rw [hn, List.replicate_zero, List.append_nil] at hline
      exact hwords hline
    | succ n =>
      rw [hn, List.replicate_succ] at hline
      rcases Text.infix_append_cons hs hline with hline | hline
      · exact hwords hline
      · have hmem := hline.subset (List.mem_cons_self ..)
        exact hs (List.eq_of_mem_replicate hmem ▸ List.mem_cons_self ..)

theorem not_mem_tagLine {r : WrittenRemark} {c : Char} (hc : Text.isBlank c = true)
    (hs : c ≠ ' ') : c ∉ r.tagLine := by
  have hat : c ≠ '@' := by
    rintro rfl
    exact absurd hc (by decide)
  intro hm
  obtain ⟨u, v, huv⟩ := List.append_of_mem hm
  refine not_infix_tagLine (p := [c]) (by simpa using hs.symm) (by simp) (by simpa using hat) ?_
    ⟨u, v, by rw [huv]; simp⟩
  intro w hw hcw
  have hfree := (isWord_of_mem w hw).not_isBlank c (hcw.subset (by simp))
  rw [hc] at hfree
  cases hfree

theorem isPrintable_tagLine (r : WrittenRemark) : IsPrintable r.tagLine := by
  refine ⟨⟨not_mem_tagLine (by decide) (by decide), ?_⟩, ?_, ?_⟩
  · intro hlast
    exact not_mem_tagLine (by decide) (by decide) (List.mem_of_getLast? hlast)
  · exact not_infix_tagLine (by decide) (by decide) (by decide) fun w hw =>
      (isWord_of_mem w hw).unmarked.not_opens
  · exact not_infix_tagLine (by decide) (by decide) (by decide) fun w hw =>
      (isWord_of_mem w hw).unmarked.not_closes

end WrittenRemark

theorem WrittenComment.isPrintable_of_mem {c : WrittenComment} : ∀ l ∈ c.lines, IsPrintable l := by
  intro l hl
  rcases List.mem_append.1 hl with hl | hl
  · exact (c.preamble_isProse l hl).isPrintable
  · obtain ⟨r, _, hl⟩ := List.mem_flatMap.1 hl
    rcases List.mem_cons.1 hl with rfl | hl
    · exact r.isPrintable_tagLine
    · exact (r.continuation_isProse l hl).isPrintable

/-! ## Finding the comments -/

namespace WrittenComment

def inner (c : WrittenComment) : Text :=
  '\n' :: (Text.unlines (c.lines.map starred) ++ [' '])

theorem text_eq (c : WrittenComment) :
    c.text = '/' :: '*' :: '*' :: (c.inner ++ ['*', '/']) := by
  have hopen : ("/**\n" : Text) = ['/', '*', '*', '\n'] := by decide
  have hclose : (" */" : Text) = [' ', '*', '/'] := by decide
  have htext : c.text = "/**\n" ++ Text.unlines (c.lines.map starred) ++ " */" := rfl
  simp only [htext, hopen, hclose, inner, List.cons_append, List.nil_append, List.append_assoc]

theorem not_opens_starred {l : Text} (h : Comment.Unmarked l) : ¬("/**" : Text) <:+: starred l := by
  intro ho
  have h1 := Text.infix_of_infix_cons (by decide) ho
  have h2 := Text.infix_of_infix_cons (by decide) h1
  exact h.not_opens (Text.infix_of_infix_cons (by decide) h2)

theorem not_closes_starred {l : Text} (h : Comment.Unmarked l) : ¬("*/" : Text) <:+: starred l := by
  intro hc
  rcases List.infix_cons_iff.1 (Text.infix_of_infix_cons (by decide) hc) with hc | hc
  · -- The star of the line is followed by a space.
    obtain ⟨rest, hrest⟩ := hc
    cases hrest
  · exact h.not_closes (Text.infix_of_infix_cons (by decide) hc)

theorem not_closes_inner (c : WrittenComment) : ¬("*/" : Text) <:+: c.inner := by
  intro h
  refine Text.not_infix_unlines_append (by decide) ?_ (by decide)
    (Text.infix_of_infix_cons (by decide) h)
  intro l hl
  obtain ⟨line, hline, rfl⟩ := List.mem_map.1 hl
  exact not_closes_starred (isPrintable_of_mem line hline).unmarked

theorem isLine_starred {l : Text} (h : Text.IsLine l) : Text.IsLine (starred l) := by
  refine ⟨?_, ?_⟩
  · intro hm
    rcases List.mem_append.1 hm with hm | hm
    · exact absurd hm (by decide)
    · exact h.1 hm
  · cases l with
    | nil => decide
    | cons c l =>
      rw [starred, List.getLast?_append_of_ne_nil _ (List.cons_ne_nil c l)]
      exact h.2

theorem body_inner (c : WrittenComment) (code : Text) :
    Comment.body (c.inner ++ '*' :: '/' :: code) = Text.unlines c.lines := by
  have hstarred : ∀ l ∈ c.lines.map starred, Text.IsLine l := by
    intro l hl
    obtain ⟨line, hline, rfl⟩ := List.mem_map.1 hl
    exact isLine_starred (isPrintable_of_mem line hline).line
  have hlines : Text.lines c.inner = [] :: (c.lines.map starred ++ [[' ']]) := by
    rw [inner, Text.lines, Text.lines_unlines_append hstarred]
    rfl
  have hstar : Comment.interior ∘ starred = some := by
    funext line
    rfl
  have hinterior : (Text.lines c.inner).filterMap Comment.interior = c.lines := by
    rw [hlines, List.filterMap_cons_none rfl, List.filterMap_append, List.filterMap_map, hstar,
      List.filterMap_some]
    exact List.append_nil _
  rw [Comment.body, Comment.untilClose_append_closes c.not_closes_inner, hinterior]

end WrittenComment

namespace Passage

/-- What stands between the opening marker of a comment and the next one. -/
def chunk (p : Passage) : Text := p.comment.inner ++ '*' :: '/' :: p.code

theorem chunk_free (p : Passage) : ¬("/**" : Text) <:+: p.chunk := by
  have hend : ¬("/**" : Text) <:+: ' ' :: '*' :: '/' :: p.code := by
    intro h
    have h1 := Text.infix_of_infix_cons (by decide) h
    have h2 := Text.infix_of_infix_cons (by decide) h1
    rcases List.infix_cons_iff.1 h2 with h3 | h3
    · obtain ⟨rest, hrest⟩ := h3
      exact p.code_start ⟨rest, (List.cons.inj hrest).2⟩
    · exact p.code_free h3
  intro h
  rw [chunk, WrittenComment.inner, List.cons_append, List.append_assoc] at h
  refine Text.not_infix_unlines_append (by decide) ?_ hend (Text.infix_of_infix_cons (by decide) h)
  intro l hl
  obtain ⟨line, hline, rfl⟩ := List.mem_map.1 hl
  exact WrittenComment.not_opens_starred (WrittenComment.isPrintable_of_mem line hline).unmarked

theorem splitOpen_passages (ps : List Passage) {front : Text} (h : ¬("/**" : Text) <:+: front) :
    Comment.splitOpen (front ++ ps.flatMap fun p => p.comment.text ++ p.code) =
      (front, ps.map chunk) := by
  -- The piece in front of a passage ends where the passage starts, so it is `front` for the first
  -- passage and the chunk of the passage before for every other.
  induction ps generalizing front with
  | nil =>
    rw [List.flatMap_nil, List.append_nil]
    exact Comment.splitOpen_of_free h
  | cons p ps ih =>
    have hcut : front ++ (p :: ps).flatMap (fun p => p.comment.text ++ p.code) =
        front ++ '/' :: '*' :: '*' ::
          (p.chunk ++ ps.flatMap fun p => p.comment.text ++ p.code) := by
      simp [WrittenComment.text_eq, chunk]
    rw [hcut, Comment.splitOpen_append_opens h, ih p.chunk_free]
    rfl

end Passage

/-! ## Reading the bodies -/

namespace Remark

theorem ofLines_cons_prose {l : Text} (h : IsProse l) (ls : List Text) :
    ofLines (l :: ls) = (l ++ '\n' :: (ofLines ls).1, (ofLines ls).2) := by
  rw [ofLines]
  simp only [h.trimmed]
  split
  · exact absurd rfl h.ne_nil
  · exact absurd rfl h.no_tag
  · rfl

theorem ofLines_prose {ps : List Text} (h : ∀ l ∈ ps, IsProse l) (ls : List Text) :
    ofLines (ps ++ ls) = (Text.unlines ps ++ (ofLines ls).1, (ofLines ls).2) := by
  induction ps with
  | nil => rfl
  | cons l ps ih =>
    have hl := h l (List.mem_cons_self ..)
    have hps := ih fun k hk => h k (List.mem_cons_of_mem l hk)
    rw [List.cons_append, ofLines_cons_prose hl, hps, Text.unlines_cons, List.append_assoc,
      List.cons_append]

theorem ofLines_tagLine (r : WrittenRemark) (ls : List Text) :
    ofLines (r.tagLine :: ls) =
      ([], ⟨r.tag, r.words.headD [],
        List.intercalate " " r.words.tail ++ (ofLines ls).1⟩ :: (ofLines ls).2) := by
  have htrim : Text.trim r.tagLine = '@' ::
      Text.trimEnd (List.intercalate " " (r.tag :: r.words) ++ List.replicate r.spaces ' ') := by
    have hat : Text.isBlank '@' = false := by decide
    rw [Text.trim, Text.trimStart, WrittenRemark.tagLine,
      List.dropWhile_cons_of_neg (by simp [hat]), Text.trimEnd_cons hat]
  have hread : ofTagLine
      (Text.trimEnd (List.intercalate " " (r.tag :: r.words) ++ List.replicate r.spaces ' ')) =
        ⟨r.tag, r.words.headD [], List.intercalate " " r.words.tail⟩ := by
    rw [ofTagLine, Text.words_trimEnd, r.words_tagLine]
    cases r.words with
    | nil => rfl
    | cons label seeds => rfl
  rw [ofLines, htrim]
  simp only [hread]

theorem ofLines_remarks (rs : List WrittenRemark) :
    ofLines (rs.flatMap WrittenRemark.lines) = ([], rs.map WrittenRemark.remark) := by
  induction rs with
  | nil => rfl
  | cons r rs ih =>
    have hcut : (r :: rs).flatMap WrittenRemark.lines =
        r.tagLine :: (r.continuation ++ rs.flatMap WrittenRemark.lines) := by
      simp [WrittenRemark.lines]
    rw [hcut, ofLines_tagLine, ofLines_prose r.continuation_isProse, ih, List.append_nil]
    rfl

theorem ofBody_lines (c : WrittenComment) : ofBody (Text.unlines c.lines) = c.annotations := by
  have hlines : Text.lines (Text.unlines c.lines) = c.lines :=
    Text.lines_unlines fun l hl => (WrittenComment.isPrintable_of_mem l hl).line
  rw [ofBody, hlines, WrittenComment.lines, ofLines_prose c.preamble_isProse, ofLines_remarks,
    List.append_nil]
  rfl

end Remark

/-- A source that was written is read as it was meant: its comments are found, one body for each,
and the remarks of each body are those of the comment. -/
theorem WrittenSource.bodies_text (s : WrittenSource) :
    (Comment.bodies s.text).map Remark.ofBody =
      s.passages.map fun p => p.comment.annotations := by
  have hbody : ∀ p : Passage,
      Remark.ofBody (Comment.body p.chunk) = p.comment.annotations := by
    intro p
    rw [Passage.chunk, WrittenComment.body_inner, Remark.ofBody_lines]
  rw [Comment.bodies, text, Passage.splitOpen_passages s.passages s.front_free, List.map_map,
    List.map_map]
  exact List.map_congr_left fun p _ => hbody p

/-- Stars and slashes next to the markers and next to each other, and a remark without a label. -/
def WrittenSource.crowded : WrittenSource where
  front := "*/ /"
  front_free := by decide
  passages :=
    [{ comment :=
        { preamble := ["* a", "/b"]
          preamble_isProse := by decide
          remarks :=
            [{ tag := "@*", words := ["x/", "*y", "/*"], spaces := 0, continuation := ["** c /"],
               tag_isWord := by decide, words_isWord := by decide,
               continuation_isProse := by decide }] }
       code := "*/"
       code_free := by decide
       code_start := by decide },
     { comment :=
        { preamble := []
          preamble_isProse := by decide
          remarks :=
            [{ tag := "class", words := [], spaces := 1, continuation := [],
               tag_isWord := by decide, words_isWord := by decide,
               continuation_isProse := by decide }] }
       code := "*"
       code_free := by decide
       code_start := by decide }]

theorem WrittenSource.bodies_crowded :
    crowded.text = "*/ //**\n * * a\n * /b\n * @@* x/ *y /*\n * ** c /\n */"
      ++ "*//**\n * @class \n */*" ∧
    (Comment.bodies crowded.text).map Remark.ofBody =
      [[Remark.preamble "* a\n/b\n", ⟨"@*", "x/", "*y /*** c /\n"⟩],
       [Remark.preamble [], ⟨"class", [], []⟩]] :=
  ⟨by decide, crowded.bodies_text⟩

end CommentDocs
