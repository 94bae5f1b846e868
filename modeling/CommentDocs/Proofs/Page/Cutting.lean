import CommentDocs.Proofs.Page.Filling
import Mathlib.Data.List.Basic
import Mathlib.Data.List.TakeWhile

/-!
# CommentDocs.Proofs.Page.Cutting

The one way to cut a template. `Placeholder.Written` says how placeholders are written, and `Cut` is
a template taken apart: text, with placeholders between. A cut is `Proper` if no placeholder starts
in its text, not even one that reaches over the end of that text into the next placeholder.

Every template has one proper cut and no other, the one that a scan finds (`Cut.proper_ofTemplate`,
`Cut.Proper.eq_ofTemplate`). Filling puts something for each of its placeholders and keeps the text
between them (`Template.fill_proper`). What is put there takes no part in the cut, so it is never
searched itself.
-/

namespace CommentDocs

theorem Text.trim_append_of_blank {g : Text} (h : ∀ c ∈ g, isBlank c = true) (t : Text) :
    trim (g ++ t) = trim t := by
  rw [trim, trimStart, List.dropWhile_append_of_pos h]
  rfl

namespace Placeholder

/-- A name: letters, and at least one. -/
structure IsName (t : Text) : Prop where
  nonempty : t ≠ []
  letters : ∀ c ∈ t, isNameChar c = true

/-- What parts the name from the argument: spaces and tabs, and at least one. -/
structure IsBreak (t : Text) : Prop where
  nonempty : t ≠ []
  gaps : ∀ c ∈ t, isGap c = true

/-- How placeholders are written, and what is read of them. -/
inductive Written : Placeholder → Prop where
  | plain {name : Text} : IsName name → Written ⟨"%(" ++ name ++ ")", name, []⟩
  | supplied {name gap argument : Text} : IsName name → IsBreak gap → ')' ∉ argument →
      Written ⟨"%(" ++ name ++ gap ++ argument ++ ")", name, Text.trim argument⟩

/-- What a page shows for a placeholder. -/
def shown (contents index : Text) (fragments : Fragments) (p : Placeholder) : Text :=
  if p.name = "contents" then contents
  else if p.name = "index" then index
  else if p.name = "include" then (fragments p.argument).1.getD []
  else p.source

theorem isBlank_of_isGap {c : Char} (h : isGap c = true) : Text.isBlank c = true := by
  rw [isGap, Bool.or_eq_true, decide_eq_true_eq, decide_eq_true_eq] at h
  rcases h with rfl | rfl <;> decide

theorem isNameChar_of_isGap {c : Char} (h : isGap c = true) : isNameChar c = false := by
  rw [isGap, Bool.or_eq_true, decide_eq_true_eq, decide_eq_true_eq] at h
  rcases h with rfl | rfl <;> decide

/-! ## Finding what is written -/

theorem Written.source_ne_nil {p : Placeholder} (h : p.Written) : p.source ≠ [] := by
  cases h <;> exact List.cons_ne_nil _ _

/-- Behind a name that no closing bracket follows there has to be a gap and, later, a closing
bracket. -/
theorem find_name {name : Text} (hname : IsName name) {c : Char} (hc : isNameChar c = false)
    (hclose : c ≠ ')') (rest : Text) :
    find ('%' :: '(' :: (name ++ c :: rest)) =
      if isGap c = true ∧ ')' ∈ rest then
        some (name.length + (rest.takeWhile (· ≠ ')')).length + 4,
          ⟨('%' :: '(' :: (name ++ c :: rest)).take
            (name.length + (rest.takeWhile (· ≠ ')')).length + 4), name,
            Text.trim (rest.takeWhile (· ≠ ')'))⟩)
      else none := by
  have htake : (name ++ c :: rest).takeWhile isNameChar = name := by
    rw [List.takeWhile_append_of_pos hname.letters,
      List.takeWhile_cons_of_neg (by simp [hc]), List.append_nil]
  have hdrop : (name ++ c :: rest).dropWhile isNameChar = c :: rest := by
    rw [List.dropWhile_append_of_pos hname.letters, List.dropWhile_cons_of_neg (by simp [hc])]
  rw [find]
  simp only [htake, hdrop, if_neg hname.nonempty]

theorem Written.find_append {p : Placeholder} (h : p.Written) (t : Text) :
    find (p.source ++ t) = some (p.source.length, p) := by
  cases h with
  | plain hname => exact find_bare hname.nonempty (List.all_eq_true.2 hname.letters) t
  | @supplied name gap argument hname hgap harg =>
    obtain ⟨c, gap, rfl⟩ := List.exists_cons_of_ne_nil hgap.nonempty
    obtain ⟨hc, hgaps⟩ := List.forall_mem_cons.1 hgap.gaps
    have hclose : c ≠ ')' := by
      rintro rfl
      exact absurd hc (by decide)
    -- What stands behind the first gap is taken for the argument; trimming drops the other gaps.
    have hinside : ∀ d ∈ gap ++ argument, decide (d ≠ ')') = true := by
      intro d hd
      rw [decide_eq_true_eq]
      rintro rfl
      rcases List.mem_append.1 hd with hd | hd
      · exact absurd (hgaps _ hd) (by decide)
      · exact harg hd
    have hargument : (gap ++ argument ++ ')' :: t).takeWhile (· ≠ ')') = gap ++ argument := by
      rw [List.takeWhile_append_of_pos hinside, List.takeWhile_cons_of_neg (by decide),
        List.append_nil]
    have htrim : Text.trim (gap ++ argument) = Text.trim argument :=
      Text.trim_append_of_blank (fun d hd => isBlank_of_isGap (hgaps d hd)) argument
    have hsource : "%(" ++ name ++ c :: gap ++ argument ++ ")" ++ t =
        '%' :: '(' :: (name ++ c :: (gap ++ argument ++ ')' :: t)) := by simp
    have hlength : ("%(" ++ name ++ c :: gap ++ argument ++ ")").length =
        name.length + (gap ++ argument).length + 4 := by
      simp
      omega
    have hfound := find_name hname (isNameChar_of_isGap hc) hclose (gap ++ argument ++ ')' :: t)
    rw [if_pos ⟨hc, by simp⟩, hargument, htrim, ← hsource, ← hlength, List.take_left] at hfound
    exact hfound

theorem exists_name_of_find {t : Text} {n : Nat} {p : Placeholder} (h : find t = some (n, p)) :
    ∃ name c rest, t = '%' :: '(' :: (name ++ c :: rest) ∧ IsName name ∧
      isNameChar c = false := by
  unfold find at h
  split at h
  · rename_i t'
    have hcut : t'.takeWhile isNameChar ++ t'.dropWhile isNameChar = t' :=
      List.takeWhile_append_dropWhile
    by_cases hne : t'.takeWhile isNameChar = []
    · simp [hne] at h
    · cases hrest : t'.dropWhile isNameChar with
      | nil => simp [hrest] at h
      | cons c rest =>
        rw [hrest] at hcut
        have hc : isNameChar c = false := by
          have hhead := List.head?_dropWhile_not isNameChar t'
          simpa [hrest] using hhead
        exact ⟨_, c, rest, by rw [hcut], ⟨hne, fun d hd => List.mem_takeWhile_imp hd⟩, hc⟩
  · cases h

theorem written_of_find {t : Text} {n : Nat} {p : Placeholder} (h : find t = some (n, p)) :
    p.Written ∧ p.source <+: t := by
  obtain ⟨name, c, rest, rfl, hname, hc⟩ := exists_name_of_find h
  by_cases hclose : c = ')'
  · subst hclose
    have hplain := Written.plain hname
    have hsource : '%' :: '(' :: (name ++ ')' :: rest) = "%(" ++ name ++ ")" ++ rest := by simp
    rw [hsource, hplain.find_append rest] at h
    cases h
    exact ⟨hplain, rest, hsource.symm⟩
  · have hgap : isGap c = true ∧ ')' ∈ rest := by
      by_contra hgap
      rw [find_name hname hc hclose, if_neg hgap] at h
      cases h
    obtain ⟨argument, after, rfl, harg⟩ := List.eq_append_cons_of_mem hgap.2
    have hbreak : IsBreak [c] := ⟨List.cons_ne_nil c [], List.forall_mem_singleton.2 hgap.1⟩
    have hsupplied := Written.supplied hname hbreak harg
    have hsource : '%' :: '(' :: (name ++ c :: (argument ++ ')' :: after)) =
        "%(" ++ name ++ [c] ++ argument ++ ")" ++ after := by simp
    rw [hsource, hsupplied.find_append after] at h
    cases h
    exact ⟨hsupplied, after, hsource.symm⟩

/-- The search at a place finds exactly what is written there. -/
theorem find_eq_some {t : Text} {n : Nat} {p : Placeholder} :
    find t = some (n, p) ↔ p.Written ∧ n = p.source.length ∧ p.source <+: t := by
  constructor
  · intro h
    obtain ⟨hp, rest, rfl⟩ := written_of_find h
    rw [hp.find_append] at h
    cases h
    exact ⟨hp, rfl, List.prefix_append _ _⟩
  · rintro ⟨hp, rfl, rest, rfl⟩
    exact hp.find_append rest

theorem find_eq_none {t : Text} :
    find t = none ↔ ∀ p : Placeholder, p.Written → ¬p.source <+: t := by
  constructor
  · intro h p hp hfront
    rw [find_eq_some.2 ⟨hp, rfl, hfront⟩] at h
    cases h
  · intro h
    cases hfound : find t with
    | none => rfl
    | some found =>
      obtain ⟨hp, _, hfront⟩ := find_eq_some.1 hfound
      exact absurd hfront (h found.2 hp)

/-- Goes through a text placeholder by placeholder, and character by character where none starts. -/
theorem scan_induction {P : Text → Prop} (nil : P [])
    (hit : ∀ p t, Written p → P t → P (p.source ++ t))
    (char : ∀ c t, find (c :: t) = none → P t → P (c :: t)) (t : Text) : P t := by
  induction hn : t.length using Nat.strongRecOn generalizing t with
  | ind n ih =>
    cases t with
    | nil => exact nil
    | cons c t =>
      cases hfound : find (c :: t) with
      | none => exact char c t hfound (ih t.length (by simp [← hn]) t rfl)
      | some found =>
        obtain ⟨hp, _, rest, hrest⟩ := find_eq_some.1 hfound
        have hlength := congrArg List.length hrest
        have hpos := List.length_pos_iff.2 hp.source_ne_nil
        rw [List.length_append] at hlength
        rw [← hrest]
        exact hit found.2 rest hp (ih rest.length (by omega) rest rfl)

/-- No placeholder starts in `l` when `after` stands behind it. -/
def Absent (l after : Text) : Prop :=
  ∀ v, v ≠ [] → v <:+ l → ∀ p : Placeholder, p.Written → ¬p.source <+: v ++ after

theorem absent_nil (after : Text) : Absent [] after :=
  fun _ hv hsuffix => absurd (List.suffix_nil.1 hsuffix) hv

theorem absent_cons {c : Char} {l after : Text} :
    Absent (c :: l) after ↔ find (c :: (l ++ after)) = none ∧ Absent l after := by
  rw [find_eq_none]
  constructor
  · intro h
    exact ⟨h (c :: l) (List.cons_ne_nil c l) List.suffix_rfl,
      fun v hv hsuffix => h v hv (hsuffix.trans (List.suffix_cons c l))⟩
  · rintro ⟨hfront, h⟩ v hv hsuffix
    rcases List.suffix_cons_iff.1 hsuffix with rfl | hsuffix
    · exact hfront
    · exact h v hv hsuffix

theorem pieces_append {l after : Text} (h : Absent l after) :
    Text.pieces find (l ++ after) = l.map .char ++ Text.pieces find after := by
  induction l with
  | nil => rfl
  | cons c l ih =>
    obtain ⟨hc, hl⟩ := absent_cons.1 h
    rw [List.cons_append, Text.pieces_char hc, ih hl, List.map_cons, List.cons_append]

end Placeholder

/-! ## Cuts -/

/-- A template taken apart: text up to its end, or text up to a placeholder and what stands behind
it. -/
inductive Cut where
  | last (l : Text)
  | before (l : Text) (p : Placeholder) (rest : Cut)

namespace Cut

/-- The text with something put for each placeholder. -/
def fill (put : Placeholder → Text) : Cut → Text
  | last l => l
  | before l p rest => l ++ put p ++ rest.fill put

/-- The text that was taken apart. -/
def source (c : Cut) : Text := c.fill Placeholder.source

/-- Placeholders are as they are written, and none starts in the text around them. -/
def Proper : Cut → Prop
  | last l => Placeholder.Absent l []
  | before l p rest => Placeholder.Absent l (p.source ++ rest.source) ∧ p.Written ∧ rest.Proper

def prepend (l : Text) : Cut → Cut
  | last l' => last (l ++ l')
  | before l' p rest => before (l ++ l') p rest

/-- The pieces of a scan, with characters put together where no placeholder stands between. -/
def ofPieces : List (Text.Piece Placeholder) → Cut
  | [] => last []
  | .char c :: ps => (ofPieces ps).prepend [c]
  | .hit p :: ps => before [] p (ofPieces ps)

def ofTemplate (template : Text) : Cut := ofPieces (Text.pieces Placeholder.find template)

theorem fill_prepend (put : Placeholder → Text) (l : Text) (c : Cut) :
    (c.prepend l).fill put = l ++ c.fill put := by
  cases c with
  | last l' => rfl
  | before l' p rest => simp [prepend, fill]

theorem fill_ofPieces (put : Placeholder → Text) (ps : List (Text.Piece Placeholder)) :
    (ofPieces ps).fill put = ps.flatMap (Text.Piece.fill put) := by
  induction ps with
  | nil => rfl
  | cons piece ps ih =>
    rw [List.flatMap_cons, ← ih]
    cases piece with
    | char c => exact fill_prepend put [c] _
    | hit p => rfl

theorem ofPieces_append (l : Text) (ps : List (Text.Piece Placeholder)) :
    ofPieces (l.map .char ++ ps) = (ofPieces ps).prepend l := by
  induction l with
  | nil =>
    rw [List.map_nil, List.nil_append]
    cases ofPieces ps <;> rfl
  | cons c l ih =>
    rw [List.map_cons, List.cons_append, ofPieces, ih]
    cases ofPieces ps <;> rfl

theorem ofTemplate_append {l after : Text} (h : Placeholder.Absent l after) :
    ofTemplate (l ++ after) = (ofTemplate after).prepend l := by
  rw [ofTemplate, Placeholder.pieces_append h, ofPieces_append, ofTemplate]

theorem ofTemplate_placeholder {p : Placeholder} (h : p.Written) (t : Text) :
    ofTemplate (p.source ++ t) = before [] p (ofTemplate t) := by
  rw [ofTemplate, Text.pieces_match h.source_ne_nil (h.find_append t)]
  rfl

/-- No other cut of a template is proper. -/
theorem Proper.eq_ofTemplate {c : Cut} (h : c.Proper) : c = ofTemplate c.source := by
  induction c with
  | last l =>
    have hcut := ofTemplate_append h
    rw [List.append_nil] at hcut
    have hempty : ofTemplate [] = last [] := rfl
    rw [source, fill, hcut, hempty, prepend, List.append_nil]
  | before l p rest ih =>
    obtain ⟨hl, hp, hrest⟩ := h
    have hsource : (before l p rest).source = l ++ (p.source ++ rest.source) :=
      List.append_assoc ..
    rw [hsource, ofTemplate_append hl, ofTemplate_placeholder hp, ← ih hrest, prepend,
      List.append_nil]

theorem Proper.prepend {c : Char} {cut : Cut} (h : cut.Proper)
    (hc : Placeholder.find (c :: cut.source) = none) : (cut.prepend [c]).Proper := by
  cases cut with
  | last l => exact Placeholder.absent_cons.2 ⟨by rwa [List.append_nil], h⟩
  | before l p rest =>
    obtain ⟨hl, hp, hrest⟩ := h
    have hsource : (before l p rest).source = l ++ (p.source ++ rest.source) :=
      List.append_assoc ..
    rw [hsource] at hc
    exact ⟨Placeholder.absent_cons.2 ⟨hc, hl⟩, hp, hrest⟩

theorem proper_ofTemplate (template : Text) :
    (ofTemplate template).Proper ∧ (ofTemplate template).source = template := by
  induction template using Placeholder.scan_induction with
  | nil => exact ⟨Placeholder.absent_nil [], rfl⟩
  | hit p t hp ih =>
    obtain ⟨hproper, hsource⟩ := ih
    rw [ofTemplate_placeholder hp]
    refine ⟨⟨Placeholder.absent_nil _, hp, hproper⟩, ?_⟩
    rw [source, fill, ← source, hsource, List.nil_append]
  | char c t hc ih =>
    obtain ⟨hproper, hsource⟩ := ih
    have hcut : ofTemplate (c :: t) = (ofTemplate t).prepend [c] := by
      rw [ofTemplate, Text.pieces_char hc]
      rfl
    rw [hcut]
    refine ⟨hproper.prepend (by rwa [hsource]), ?_⟩
    rw [source, fill_prepend, ← source, hsource]
    rfl

end Cut

/-! ## Filling -/

namespace Template

theorem expand_text (contents index : Text) (fragments : Fragments) (p : Placeholder) :
    (expand contents index fragments p).1 = p.shown contents index fragments := by
  simp only [expand, Placeholder.shown]
  split
  · rfl
  · split
    · rfl
    · split
      · split
        · rename_i hfound; rw [hfound]; rfl
        · rename_i hfound; rw [hfound]; rfl
      · rfl

theorem fill_eq_fill_ofTemplate (template contents index : Text) (fragments : Fragments) :
    (fill template contents index fragments).1 =
      (Cut.ofTemplate template).fill (Placeholder.shown contents index fragments) := by
  rw [fill_text, Cut.ofTemplate, Cut.fill_ofPieces]
  refine List.flatMap_congr fun piece _ => ?_
  cases piece with
  | char c => rfl
  | hit p => exact expand_text contents index fragments p

/-- A template can be cut in exactly one way into placeholders and text in which none starts, and
filling puts the contents, the index, a fragment or the placeholder itself for each placeholder of
that cut. The cut is that of the template alone, whatever is put. -/
theorem fill_proper (template : Text) :
    ∃ c : Cut, (c.Proper ∧ c.source = template) ∧
      (∀ d : Cut, d.Proper → d.source = template → d = c) ∧
      ∀ (contents index : Text) (fragments : Fragments),
        (fill template contents index fragments).1 =
          c.fill (Placeholder.shown contents index fragments) := by
  refine ⟨Cut.ofTemplate template, Cut.proper_ofTemplate template, ?_, ?_⟩
  · rintro d hd rfl
    exact hd.eq_ofTemplate
  · intro contents index fragments
    exact fill_eq_fill_ofTemplate template contents index fragments

/-- An open placeholder with another inside it, and a text put in that looks like a third. -/
example : (fill "%(index%(index a b)%(note %(contents)" "." "%(contents)" Fragments.none).1 =
    "%(index%(contents)%(note %(contents)".toList := by decide

end Template
end CommentDocs
