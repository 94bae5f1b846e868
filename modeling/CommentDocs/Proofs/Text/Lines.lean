import CommentDocs.Text.Blank
import Mathlib.Data.List.DropRight

/-!
# CommentDocs.Proofs.Text.Lines

Reading back what was printed as lines and words. A text is cut at each of its line ends on its own,
and a carriage return in front of a line end is lost (`lines_cut`); `line_induction` goes through a
text in the same way. So lines that were printed each with a line end are read again as they were
(`lines_unlines_append`), and so are words that were printed with single spaces between them
(`words_intercalate`), whatever blanks follow them (`words_trimEnd`).
-/

namespace CommentDocs
namespace Text

theorem intercalate_space_cons_cons (w v : Text) (ws : List Text) :
    List.intercalate " " (w :: v :: ws) = w ++ ' ' :: List.intercalate " " (v :: ws) := by
  rw [List.intercalate_cons_cons, List.append_assoc]
  rfl

/-- What holds of texts, and of any two texts in one, holds of all of them in one. -/
theorem flatMap_induction {α : Type} {P : Text → Prop} {f : α → Text} {xs : List α} (nil : P [])
    (append : ∀ s t, P s → P t → P (s ++ t)) (h : ∀ x ∈ xs, P (f x)) : P (xs.flatMap f) := by
  induction xs with
  | nil => exact nil
  | cons x xs ih =>
    obtain ⟨hx, hxs⟩ := List.forall_mem_cons.1 h
    exact append _ _ hx (ih hxs)

/-- What holds of texts and of a separator, and of any two texts in one, holds of the texts in one
with the separator between them. -/
theorem intercalate_induction {P : Text → Prop} {separator : Text} {ts : List Text} (nil : P [])
    (append : ∀ s t, P s → P t → P (s ++ t)) (hs : P separator) (h : ∀ t ∈ ts, P t) :
    P (separator.intercalate ts) := by
  induction ts with
  | nil => exact nil
  | cons t ts ih =>
    obtain ⟨ht, hts⟩ := List.forall_mem_cons.1 h
    cases ts with
    | nil => rwa [List.intercalate_singleton]
    | cons u ts =>
      rw [List.intercalate_cons_cons]
      exact append _ _ (append _ _ ht hs) (ih hts)

theorem intercalate_newline {ls : List Text} (h : ls ≠ []) :
    List.intercalate "\n" ls ++ "\n" = unlines ls := by
  induction ls with
  | nil => exact absurd rfl h
  | cons l ls ih =>
    cases ls with
    | nil => simp [unlines]
    | cons k ls =>
      rw [List.intercalate_cons_cons, List.append_assoc, List.append_assoc,
        ih (List.cons_ne_nil k ls), ← List.append_assoc]
      rfl

/-! ## Occurrences and single characters -/

/-- A text that lacks a character does not reach over it. -/
theorem infix_append_cons {p a b : Text} {x : Char} (hx : x ∉ p) (h : p <:+: a ++ x :: b) :
    p <:+: a ∨ p <:+: b := by
  have hfront : ∀ q : Text, q <+: x :: b → x ∉ q → q = [] := by
    intro q hq hxq
    cases q with
    | nil => rfl
    | cons y q =>
      rw [List.cons_prefix_cons] at hq
      exact absurd (hq.1 ▸ List.mem_cons_self ..) hxq
  rcases List.infix_append_iff.1 h with h | h | ⟨u, v, rfl, hu, hv⟩
  · exact .inl h
  · rcases List.infix_cons_iff.1 h with h | h
    · left
      rw [hfront p h hx]
      exact List.nil_infix
    · exact .inr h
  · left
    have hv' := hfront v hv fun hm => hx (List.mem_append_right u hm)
    rw [hv', List.append_nil]
    exact hu.isInfix

theorem infix_of_infix_cons {p t : Text} {x c : Char} (hc : c ≠ x) (h : x :: p <:+: c :: t) :
    x :: p <:+: t := by
  rcases List.infix_cons_iff.1 h with h | h
  · rw [List.cons_prefix_cons] at h
    exact absurd h.1.symm hc
  · exact h

theorem unlines_cons (l : Text) (ls : List Text) : unlines (l :: ls) = l ++ '\n' :: unlines ls := by
  simp [unlines]

theorem not_infix_unlines_append {p : Text} {ls : List Text} {t : Text} (hp : '\n' ∉ p)
    (hls : ∀ l ∈ ls, ¬p <:+: l) (ht : ¬p <:+: t) : ¬p <:+: unlines ls ++ t := by
  induction ls with
  | nil => exact ht
  | cons l ls ih =>
    rw [unlines_cons, List.append_assoc, List.cons_append]
    intro h
    rcases infix_append_cons hp h with h | h
    · exact hls l (List.mem_cons_self ..) h
    · exact ih (fun k hk => hls k (List.mem_cons_of_mem l hk)) h

theorem not_infix_intercalate {p : Text} {ws : List Text} (hp : ' ' ∉ p) (hne : p ≠ [])
    (hws : ∀ w ∈ ws, ¬p <:+: w) : ¬p <:+: List.intercalate " " ws := by
  induction ws with
  | nil => simpa [List.intercalate] using hne
  | cons w ws ih =>
    have hw := hws w (List.mem_cons_self ..)
    cases ws with
    | nil => rwa [List.intercalate_singleton]
    | cons v ws =>
      rw [intercalate_space_cons_cons]
      intro h
      rcases infix_append_cons hp h with h | h
      · exact hw h
      · exact ih (fun u hu => hws u (List.mem_cons_of_mem w hu)) h

/-! ## Lines -/

/-- A line without the carriage return that belongs to its line end. -/
def chomp : Text → Text
  | [] => []
  | ['\r'] => []
  | c :: t => c :: chomp t

theorem chomp_cons {c : Char} {t : Text} (h : c = '\r' → t ≠ []) :
    chomp (c :: t) = c :: chomp t := by
  rw [chomp]
  rintro rfl rfl
  exact h rfl rfl

theorem eq_chomp_or (t : Text) : t = chomp t ∨ t = chomp t ++ ['\r'] := by
  induction t with
  | nil => exact .inl rfl
  | cons c t ih =>
    by_cases h : c = '\r' → t ≠ []
    · rw [chomp_cons h]
      rcases ih with ih | ih
      · exact .inl (congrArg (c :: ·) ih)
      · exact .inr (congrArg (c :: ·) ih)
    · simp only [Classical.not_imp, not_not] at h
      obtain ⟨rfl, rfl⟩ := h
      exact .inr rfl

theorem line_induction {P : Text → Prop} (last : ∀ t, '\n' ∉ t → P t)
    (cut : ∀ u v, '\n' ∉ u → P v → P (u ++ '\n' :: v)) (t : Text) : P t := by
  induction hn : t.length using Nat.strongRecOn generalizing t with
  | ind n ih =>
    by_cases h : '\n' ∈ t
    · obtain ⟨u, v, rfl, hu⟩ := List.eq_append_cons_of_mem h
      rw [List.length_append, List.length_cons] at hn
      exact cut u v hu (ih v.length (by omega) v rfl)
    · exact last t h

theorem lines_of_not_mem {t : Text} (h : '\n' ∉ t) : lines t = if t = [] then [] else [t] := by
  induction t with
  | nil => rfl
  | cons c t ih =>
    have hc : c ≠ '\n' := fun hc => h (hc ▸ List.mem_cons_self ..)
    have ht : '\n' ∉ t := fun ht => h (List.mem_cons_of_mem c ht)
    have hcr : ∀ u, c = '\r' → t = '\n' :: u → False := by
      rintro u _ rfl
      exact ht (List.mem_cons_self ..)
    rw [lines, ih ht, if_neg (List.cons_ne_nil c t)]
    · by_cases hnil : t = []
      · simp [hnil]
      · simp [hnil]
    · exact hc
    · exact hcr

theorem lines_cut {u : Text} (h : '\n' ∉ u) (v : Text) :
    lines (u ++ '\n' :: v) = chomp u :: lines v := by
  induction u with
  | nil => rw [List.nil_append, lines, chomp]
  | cons c u ih =>
    have hc : c ≠ '\n' := fun hc => h (hc ▸ List.mem_cons_self ..)
    have hu : '\n' ∉ u := fun hu => h (List.mem_cons_of_mem c hu)
    by_cases hend : c = '\r' → u ≠ []
    · have hcr : ∀ t, c = '\r' → u ++ '\n' :: v = '\n' :: t → False := by
        intro t hr ht
        cases u with
        | nil => exact hend hr rfl
        | cons d u =>
          have hd : d = '\n' := (List.cons.inj ht).1
          exact hu (by simp [hd])
      rw [List.cons_append, lines, ih hu, chomp_cons hend]
      · exact hc
      · exact hcr
    · -- The carriage return of the line end itself.
      simp only [Classical.not_imp, not_not] at hend
      obtain ⟨rfl, rfl⟩ := hend
      rw [List.singleton_append, lines, chomp]

theorem not_mem_of_mem_lines {t l : Text} (h : l ∈ lines t) : '\n' ∉ l := by
  induction t using line_induction with
  | last t ht =>
    rw [lines_of_not_mem ht] at h
    split at h
    · cases h
    · rwa [List.mem_singleton.1 h]
  | cut u v hu ih =>
    rw [lines_cut hu] at h
    rcases List.mem_cons.1 h with rfl | h
    · intro hm
      refine hu ?_
      rcases eq_chomp_or u with he | he
      · rw [he]
        exact hm
      · rw [he]
        exact List.mem_append_left _ hm
    · exact ih h

/-- Text that is read as one line when a line end follows it. -/
def IsLine (t : Text) : Prop := '\n' ∉ t ∧ t.getLast? ≠ some '\r'

theorem IsLine.chomp_eq {t : Text} (h : IsLine t) : chomp t = t := by
  rcases eq_chomp_or t with he | he
  · exact he.symm
  · refine absurd ?_ h.2
    rw [he, List.getLast?_concat]

theorem IsLine.behind {s t : Text} (ht : IsLine t) (hs : '\n' ∉ s) (hne : t ≠ []) :
    IsLine (s ++ t) := by
  refine ⟨?_, ?_⟩
  · rw [List.mem_append, not_or]
    exact ⟨hs, ht.1⟩
  · rw [List.getLast?_append_of_ne_nil s hne]
    exact ht.2

theorem lines_append_newline {l : Text} (h : IsLine l) (t : Text) :
    lines (l ++ '\n' :: t) = l :: lines t := by
  rw [lines_cut h.1, h.chomp_eq]

/-- Texts without line ends that are printed as lines lose the carriage returns at their ends. -/
theorem lines_unlines_chomp {ls : List Text} (h : ∀ l ∈ ls, '\n' ∉ l) :
    lines (unlines ls) = ls.map chomp := by
  induction ls with
  | nil => rfl
  | cons l ls ih =>
    rw [unlines_cons, lines_cut (h l (List.mem_cons_self ..)),
      ih fun k hk => h k (List.mem_cons_of_mem l hk), List.map_cons]

theorem lines_unlines_append {ls : List Text} (h : ∀ l ∈ ls, IsLine l) (t : Text) :
    lines (unlines ls ++ t) = ls ++ lines t := by
  induction ls with
  | nil => rfl
  | cons l ls ih =>
    have hl := h l (List.mem_cons_self ..)
    have hls := ih fun k hk => h k (List.mem_cons_of_mem l hk)
    rw [unlines_cons, List.append_assoc, List.cons_append, lines_append_newline hl, hls,
      List.cons_append]

theorem lines_unlines {ls : List Text} (h : ∀ l ∈ ls, IsLine l) : lines (unlines ls) = ls := by
  have := lines_unlines_append h []
  simpa [lines] using this

/-- Whole lines: behind such a text a new line starts. -/
def WholeLines (t : Text) : Prop := t = [] ∨ t.getLast? = some '\n'

instance (t : Text) : Decidable (WholeLines t) :=
  inferInstanceAs (Decidable (t = [] ∨ t.getLast? = some '\n'))

theorem wholeLines_cut (u v : Text) : WholeLines (u ++ '\n' :: v) ↔ WholeLines v := by
  rw [WholeLines, WholeLines, List.getLast?_append_of_ne_nil u (List.cons_ne_nil _ v),
    List.getLast?_cons]
  cases v with
  | nil => simp
  | cons c v => simp [List.getLast?_cons]

theorem lines_append {s : Text} (h : WholeLines s) (t : Text) :
    lines (s ++ t) = lines s ++ lines t := by
  induction s using line_induction with
  | last s hs =>
    rcases h with rfl | h
    · rfl
    · exact absurd (List.mem_of_getLast? h) hs
  | cut u v hu ih =>
    rw [List.append_assoc, List.cons_append, lines_cut hu, lines_cut hu,
      ih ((wholeLines_cut u v).1 h), List.cons_append]

/-! ## Words -/

theorem words_of_free {w : Text} (h : ∀ c ∈ w, isBlank c = false) :
    words w = [w].filter (· ≠ []) := by
  rw [words, splitWhen_of_free h]

/-- Texts without blanks that were printed with single spaces are read as words, except for the
empty ones. -/
theorem words_intercalate {ws : List Text} (h : ∀ w ∈ ws, ∀ c ∈ w, isBlank c = false) :
    words (List.intercalate " " ws) = ws.filter (· ≠ []) := by
  induction ws with
  | nil => rfl
  | cons w ws ih =>
    have hw := words_of_free (h w (List.mem_cons_self ..))
    cases ws with
    | nil => rw [List.intercalate_singleton, hw]
    | cons v ws =>
      have hrest := ih fun u hu => h u (List.mem_cons_of_mem w hu)
      rw [intercalate_space_cons_cons, words_append_blank (by decide), hw, hrest,
        ← List.filter_append]
      rfl

theorem words_append_blanks (t : Text) {bs : Text} (h : ∀ c ∈ bs, isBlank c = true) :
    words (t ++ bs) = words t := by
  induction bs generalizing t with
  | nil => rw [List.append_nil]
  | cons b bs ih =>
    have hb := h b (List.mem_cons_self ..)
    have hnil : words bs = [] := ih [] fun c hc => h c (List.mem_cons_of_mem b hc)
    rw [words_append_blank hb, hnil, List.append_nil]

theorem words_trimEnd (t : Text) : words (trimEnd t) = words t := by
  have hblank : ∀ c ∈ t.rtakeWhile isBlank, isBlank c = true := fun c hc =>
    List.mem_rtakeWhile_imp hc
  have hcut : trimEnd t ++ t.rtakeWhile isBlank = t := List.rdropWhile_append_rtakeWhile
  rw [← words_append_blanks (trimEnd t) hblank, hcut]

/-! ## Trimmed text -/

theorem isBlank_getLast {t : Text} (h : trim t = t) (hne : t ≠ []) :
    isBlank (t.getLast hne) = false := by
  have hend : (trimStart t).rdropWhile isBlank = t := h
  have hlast := List.rdropWhile_last_not isBlank (trimStart t) (by rw [hend]; exact hne)
  simpa [hend] using hlast

theorem trimEnd_cons {c : Char} (hc : isBlank c = false) (t : Text) :
    trimEnd (c :: t) = c :: trimEnd t := by
  have hrev : (c :: t).reverse = t.reverse ++ [c] := List.reverse_cons
  rw [trimEnd, hrev, List.dropWhile_append, trimEnd]
  split
  · rename_i hnil
    have hnil' : t.reverse.dropWhile isBlank = [] := by simpa using hnil
    rw [hnil', List.dropWhile_cons_of_neg (by simp [hc])]
    rfl
  · simp

theorem trimEnd_append_blank {c : Char} (hc : isBlank c = true) (t : Text) :
    trimEnd (t ++ [c]) = trimEnd t := by
  simp [trimEnd, hc]

theorem trimStart_append_blank {c : Char} (hc : isBlank c = true) (t : Text) :
    trimStart (t ++ [c]) = if trimStart t = [] then [] else trimStart t ++ [c] := by
  rw [trimStart, List.dropWhile_append, List.dropWhile_cons_of_pos hc, List.dropWhile_nil,
    trimStart]
  simp only [List.isEmpty_iff]

theorem trim_append_blank {c : Char} (hc : isBlank c = true) (t : Text) :
    trim (t ++ [c]) = trim t := by
  rw [trim, trimStart_append_blank hc, trim]
  split
  · rename_i h
    rw [h]
  · exact trimEnd_append_blank hc _

theorem trim_chomp (t : Text) : trim (chomp t) = trim t := by
  rcases eq_chomp_or t with he | he
  · rw [← he]
  · have hblank := trim_append_blank (c := '\r') (by decide) (chomp t)
    rw [← he] at hblank
    exact hblank.symm

theorem trim_trim (t : Text) : trim (trim t) = trim t := by
  have hend : trimEnd (trimEnd (trimStart t)) = trimEnd (trimStart t) :=
    List.rdropWhile_idempotent isBlank (trimStart t)
  have htrim : trim t = trimEnd (trimStart t) := rfl
  cases hs : trimStart t with
  | nil => rw [htrim, hs]; rfl
  | cons c u =>
    have hne : trimStart t ≠ [] := by
      rw [hs]
      exact List.cons_ne_nil c u
    have hhead : isBlank ((trimStart t).head hne) = false := List.head_dropWhile_not isBlank hne
    have hc : isBlank c = false := by simpa [hs] using hhead
    rw [hs, trimEnd_cons hc] at hend
    rw [htrim, hs, trimEnd_cons hc, trim, trimStart, List.dropWhile_cons_of_neg (by simp [hc])]
    exact hend

end Text
end CommentDocs
