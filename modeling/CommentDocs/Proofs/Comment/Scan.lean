import CommentDocs.Proofs.Comment.Cuts

/-!
# CommentDocs.Proofs.Comment.Scan

Comments found in one pass. `Scan.run` goes over a source text from left to right, outside of
comments or inside one, and looks at four characters at most to take a step. `bodies_eq_run` says
that the bodies of comments, which are defined by cutting the text at all opening markers first and
by looking for a closing marker in each piece, are made of the chunks of that scan.

What is left for a scan to emit (`Scan.pending`) is read off the two cuts. One step emits the first
of it and leaves the others (`Scan.pending_step`), and so does a whole run (`Scan.run_eq_pending`).
-/

namespace CommentDocs
namespace Comment

/-- A closing marker stands at the front of the text, and its slash belongs to no opening marker. -/
def Closes (t : Text) : Prop := ("*/" : Text) <+: t ∧ ¬Opens t.tail

instance (t : Text) : Decidable (Closes t) :=
  inferInstanceAs (Decidable (("*/" : Text) <+: t ∧ ¬Opens t.tail))

/-- A piece between opening markers starts with a closing marker if the text does, unless the slash
of that marker opens the next comment. -/
theorem closes_iff {c : Char} {t : Text} :
    Closes (c :: t) ↔ ("*/" : Text) <+: c :: (splitOpen t).1 := by
  constructor
  · rintro ⟨hstar, hno⟩
    obtain ⟨rest, hrest⟩ := exists_eq_of_close hstar
    cases hrest
    rw [List.tail_cons] at hno
    rw [splitOpen_cons hno]
    exact ⟨(splitOpen rest).1, rfl⟩
  · intro h
    by_cases ht : Opens t
    · obtain ⟨rest, rfl⟩ := ht.exists_eq
      rw [splitOpen_opens] at h
      have := h.length_le
      simp at this
    · refine ⟨?_, ht⟩
      cases t with
      | nil =>
        have := h.length_le
        simp [splitOpen] at this
      | cons d t =>
        rw [splitOpen_cons ht] at h
        obtain ⟨rest, hrest⟩ := exists_eq_of_close h
        cases hrest
        exact ⟨t, rfl⟩

/-! ## The scan -/

namespace Scan

/-- Where a scan stands: outside of comments, or inside one of which it has read a chunk. -/
inductive State where
  | outside
  | inside (chunk : Text)
deriving DecidableEq

namespace State

def emit : State → List Text
  | .outside => []
  | .inside chunk => [chunk]

def read (c : Char) : State → State
  | .outside => .outside
  | .inside chunk => .inside (chunk ++ [c])

end State

/-- What a scan does at a place: the chunks that it emits, the state in which it goes on, and the
number of characters that it skips. -/
structure Step where
  emitted : List Text
  next : State
  skipped : Nat

def step (s : State) (c : Char) (t : Text) : Step :=
  if Opens (c :: t) then ⟨s.emit, .inside [], 3⟩
  else if s ≠ .outside ∧ Closes (c :: t) then ⟨s.emit, .outside, 2⟩
  else ⟨[], s.read c, 1⟩

theorem skipped_step_pos (s : State) (c : Char) (t : Text) : 0 < (step s c t).skipped := by
  rw [step]
  split
  · simp
  · split
    · simp
    · simp

/-- The chunks that a scan emits on its way to the end of the text. -/
def run (s : State) : Text → List Text
  | [] => s.emit
  | c :: t =>
    (step s c t).emitted ++ run (step s c t).next ((c :: t).drop (step s c t).skipped)
termination_by t => t.length
decreasing_by
  have := skipped_step_pos s c t
  simp only [List.length_drop, List.length_cons]
  omega

/-- What a scan in some state has still to emit, by the two cuts. -/
def pending : State → Text → List Text
  | .outside, t => (splitOpen t).2.map untilClose
  | .inside chunk, t =>
    (chunk ++ untilClose (splitOpen t).1) :: (splitOpen t).2.map untilClose

theorem pending_opens (s : State) (t : Text) :
    pending s ('/' :: '*' :: '*' :: t) = s.emit ++ pending (.inside []) t := by
  cases s with
  | outside => rw [pending, splitOpen_opens]; rfl
  | inside chunk =>
    rw [pending, splitOpen_opens]
    simp [State.emit, pending, untilClose]

theorem pending_closes {chunk t : Text} (h : Closes ('*' :: '/' :: t)) :
    pending (.inside chunk) ('*' :: '/' :: t) = chunk :: pending .outside t := by
  have hno : ¬Opens ('/' :: t) := h.2
  have hno' : ¬Opens ('*' :: '/' :: t) := by
    intro ho
    obtain ⟨rest, hrest⟩ := ho.exists_eq
    cases hrest
  simp only [pending, splitOpen_cons hno', splitOpen_cons hno, untilClose_closes, List.append_nil]

theorem pending_read {s : State} {c : Char} {t : Text} (hopen : ¬Opens (c :: t))
    (hclose : ¬(s ≠ .outside ∧ Closes (c :: t))) :
    pending s (c :: t) = pending (s.read c) t := by
  cases s with
  | outside => rw [pending, splitOpen_cons hopen]; rfl
  | inside chunk =>
    have hc : ¬("*/" : Text) <+: c :: (splitOpen t).1 := by
      intro h
      exact hclose ⟨by simp, closes_iff.2 h⟩
    simp only [State.read, pending, splitOpen_cons hopen, untilClose_cons hc, List.append_assoc,
      List.singleton_append]

theorem pending_step (s : State) (c : Char) (t : Text) :
    pending s (c :: t) = (step s c t).emitted ++
      pending (step s c t).next ((c :: t).drop (step s c t).skipped) := by
  by_cases hopen : Opens (c :: t)
  · obtain ⟨rest, hrest⟩ := hopen.exists_eq
    cases hrest
    rw [step, if_pos hopen]
    exact pending_opens s rest
  · by_cases hclose : s ≠ .outside ∧ Closes (c :: t)
    · rw [step, if_neg hopen, if_pos hclose]
      obtain ⟨hs, hc⟩ := hclose
      obtain ⟨rest, hrest⟩ := exists_eq_of_close hc.1
      cases hrest
      cases s with
      | outside => exact absurd rfl hs
      | inside chunk => exact pending_closes hc
    · -- Neither cut falls here: the character stays where it is in its piece.
      rw [step, if_neg hopen, if_neg hclose]
      exact pending_read hopen hclose

theorem run_eq_pending (s : State) (t : Text) : run s t = pending s t := by
  fun_induction run s t with
  | case1 s =>
    cases s with
    | outside => rfl
    | inside chunk => simp [State.emit, pending, splitOpen, untilClose]
  | case2 s c t ih => rw [ih, ← pending_step]

end Scan

/-! ## The kept lines -/

/-- A line without its first star and one space after it, if no other character that is not blank
comes before that star. -/
def afterStar (line : Text) : Option Text :=
  if line.find? (fun c => !Text.isBlank c) = some '*' then
    match (line.dropWhile (· ≠ '*')).tail with
    | ' ' :: t => some t
    | t => some t
  else none

def keptLines (chunk : Text) : Text := Text.unlines ((Text.lines chunk).filterMap afterStar)

theorem interior_eq_afterStar (line : Text) : interior line = afterStar line := by
  induction line with
  | nil => rfl
  | cons c line ih =>
    by_cases hc : Text.isBlank c = true
    · have hstar : c ≠ '*' := by
        rintro rfl
        exact absurd hc (by decide)
      rw [interior, Text.trimStart, List.dropWhile_cons_of_pos hc, ← Text.trimStart, ← interior, ih]
      simp [afterStar, hc, hstar]
    · rw [interior, Text.trimStart, List.dropWhile_cons_of_neg hc]
      by_cases hstar : c = '*'
      · subst hstar
        simp only [afterStar]
        split <;> simp_all
      · simp [afterStar, hc, hstar]

/-- The bodies of the comments of any source text are made of the kept lines of the chunks that a
scan of the text emits. -/
theorem bodies_eq_run (source : Text) :
    bodies source = (Scan.run .outside source).map keptLines := by
  have hlines : (fun chunk => keptLines (untilClose chunk)) = body := by
    funext chunk
    rw [keptLines, body, ← funext interior_eq_afterStar]
  rw [Scan.run_eq_pending, Scan.pending, bodies, ← hlines, List.map_map]
  rfl

end Comment
end CommentDocs
