import CommentDocs.Proofs.Html.Counts

/-!
# CommentDocs.Proofs.Html.Typesetting

Escaping a text and then replacing shorthands in it, as one scan over the raw text.

* In a compatible table the replacements may be made in any order, and a symbol is replaced wherever
  it stood in the text to begin with (`substituteBy_perm`). The reason is that no replacement makes
  or completes a symbol (`isPrefix_of_replace`).
* `scan` replaces all texts of a table in one go. `typeset` is such a scan: it puts markup for
  shorthands as authors write them and character references for other characters that open markup.
* A shorthand occurs in an escaped text where it occurs in the raw one and nowhere else
  (`escape_isPrefix`), so both ways lead to the same text (`substitute_escape`).
-/

namespace CommentDocs

namespace Text

theorem occurrences_append_of_startsNowhere {p w : Text} (h : StartsNowhere p w) (t : Text) :
    occurrences p (w ++ t) = occurrences p t := by
  rw [← length_behind, behind_append_of_startsNowhere h, length_behind]

theorem occurrences_cons {p t : Text} {c : Char} (h : ¬p <+: c :: t) :
    occurrences p (c :: t) = occurrences p t := by
  have hp : p.isPrefixOf (c :: t) ≠ true := fun hp => h (List.isPrefixOf_iff_prefix.1 hp)
  rw [occurrences, List.tails_cons, List.countP_cons_of_neg hp, occurrences]

theorem occurrences_self_append {p : Text} (hp : p ≠ []) (h : StartsNowhere p p.tail) (t : Text) :
    occurrences p (p ++ t) = occurrences p t + 1 := by
  cases p with
  | nil => exact absurd rfl hp
  | cons c p =>
    have hself : (c :: p).isPrefixOf (c :: (p ++ t)) = true :=
      List.isPrefixOf_iff_prefix.2 (List.prefix_append (c :: p) t)
    rw [List.cons_append, occurrences, List.tails_cons, List.countP_cons_of_pos hself]
    exact congrArg (· + 1) (occurrences_append_of_startsNowhere h t)

end Text

namespace Html

/-! ## Replacements in any order -/

theorem table_induction {table : SymbolTable} (hne : ∀ r ∈ table, r.1 ≠ []) {P : Text → Prop}
    (nil : P []) (hit : ∀ r ∈ table, ∀ t, P t → P (r.1 ++ t))
    (char : ∀ c t, (∀ r ∈ table, ¬r.1 <+: c :: t) → P t → P (c :: t)) (t : Text) : P t := by
  induction hn : t.length using Nat.strongRecOn generalizing t with
  | ind n ih =>
    cases t with
    | nil => exact nil
    | cons c t =>
      by_cases h : ∀ r ∈ table, ¬r.1 <+: c :: t
      · rw [List.length_cons] at hn
        exact char c t h (ih t.length (by omega) t rfl)
      · simp only [not_forall, not_not] at h
        obtain ⟨r, hr, s, hs⟩ := h
        have hlen := congrArg List.length hs
        have hpos := List.length_pos_iff.2 (hne r hr)
        rw [List.length_append] at hlen
        rw [← hs]
        exact hit r hr s (ih s.length (by omega) s rfl)

theorem substituteBy_nil (table : SymbolTable) : substituteBy table [] = [] :=
  substituteBy_induction (P := (· = [])) (fun r _ t ht => by rw [ht, Text.replace_nil]) rfl

theorem substituteBy_append_of_startsNowhere {table : SymbolTable} {w : Text}
    (h : ∀ r ∈ table, Text.StartsNowhere r.1 w) (t : Text) :
    substituteBy table (w ++ t) = w ++ substituteBy table t := by
  induction table generalizing t with
  | nil => rfl
  | cons r table ih =>
    obtain ⟨hr, h⟩ := List.forall_mem_cons.1 h
    rw [substituteBy_cons, Text.replace_append_of_startsNowhere hr, ih h, substituteBy_cons]

theorem Compatible.perm {table table' : SymbolTable} (hc : Compatible table)
    (h : table'.Perm table) : Compatible table' := by
  intro r hr
  obtain ⟨hne, hself, hnew, hother⟩ := hc r (h.mem_iff.1 hr)
  exact ⟨hne, hself, fun s hs => hnew s (h.mem_iff.1 hs), fun s hs => hother s (h.mem_iff.1 hs)⟩

section Compatible

variable {table : SymbolTable} (hc : Compatible table)
include hc

/-- A replacement does not complete a symbol that begins in front of it. -/
theorem isPrefix_of_replace {s r : Text × Text} (hs : s ∈ table) (hr : r ∈ table) {u v y : Text}
    (hu : u ≠ []) (huv : s.1 = u ++ v) (h : v <+: Text.replace r.1 r.2 y) : v <+: y := by
  obtain ⟨hne, _, hnew, _⟩ := hc r hr
  induction y using Text.occurrence_induction hne generalizing u v with
  | nil => exact h
  | hit y _ =>
    by_cases hv : v = []
    · rw [hv]
      exact List.nil_prefix
    · rw [Text.replace_append_old hne] at h
      obtain ⟨_, _, h₁, h₂⟩ := (hnew s hs).1.of_eq_append hu hv huv
      rcases List.prefix_or_prefix_of_prefix h (List.prefix_append r.2 _) with h | h
      · exact absurd h h₁
      · exact absurd h h₂
  | char c y hcy ih =>
    rw [Text.replace_cons hcy] at h
    cases v with
    | nil => exact List.nil_prefix
    | cons d v =>
      rw [List.cons_prefix_cons] at h ⊢
      exact ⟨h.1, ih (u := u ++ [d]) (by simp) (by simp [huv]) h.2⟩

theorem substituteBy_char {c : Char} {t : Text} (h : ∀ s ∈ table, ¬s.1 <+: c :: t) :
    substituteBy table (c :: t) = c :: substituteBy table t := by
  -- The induction is on the part of the table still to be gone through.
  have hpart : ∀ rules : SymbolTable, rules ⊆ table → ∀ t, (∀ s ∈ table, ¬s.1 <+: c :: t) →
      substituteBy rules (c :: t) = c :: substituteBy rules t := by
    intro rules
    induction rules with
    | nil => intros; rfl
    | cons r rules ih =>
      intro hsub t h
      obtain ⟨hr, hsub⟩ := List.cons_subset.1 hsub
      rw [substituteBy_cons, Text.replace_cons (h r hr), substituteBy_cons]
      refine ih hsub _ fun s hs hp => ?_
      obtain ⟨hne, _⟩ := hc s hs
      obtain ⟨d, v, hdv⟩ := List.exists_cons_of_ne_nil hne
      have hv : s.1 = [d] ++ v := hdv
      rw [hdv, List.cons_prefix_cons] at hp
      refine h s hs ?_
      rw [hdv, List.cons_prefix_cons]
      exact ⟨hp.1, isPrefix_of_replace hc hs hr (by simp) hv hp.2⟩
  exact hpart table (List.Subset.refl _) t h

theorem substituteBy_symbol {r : Text × Text} (hr : r ∈ table) (t : Text) :
    substituteBy table (r.1 ++ t) = r.2 ++ substituteBy table t := by
  have h := substituteBy_around_symbol hc hr [] t
  rwa [substituteBy_nil, List.nil_append, List.nil_append] at h

/-- The order of a compatible table does not matter. -/
theorem substituteBy_perm {table' : SymbolTable} (h : table'.Perm table) (t : Text) :
    substituteBy table' t = substituteBy table t := by
  have hc' := hc.perm h
  induction t using table_induction fun r hr => (hc r hr).1 with
  | nil =>
    rw [substituteBy_nil, substituteBy_nil]
  | hit r hr t ih =>
    rw [substituteBy_symbol hc hr, substituteBy_symbol hc' (h.mem_iff.2 hr), ih]
  | char c t hchar ih =>
    rw [substituteBy_char hc hchar, substituteBy_char hc' fun r hr => hchar r (h.mem_iff.1 hr), ih]

end Compatible

/-! ## All replacements in one scan -/

/-- Finds the text of a table that stands at the front. -/
def firstOf (table : SymbolTable) : Text.Rule Text := fun t =>
  (table.find? fun r => r.1.isPrefixOf t).map fun r => (r.1.length, r.2)

/-- One scan from left to right in which the texts of a table are replaced, and nothing else. -/
def scan (table : SymbolTable) (t : Text) : Text :=
  (Text.pieces (firstOf table) t).flatMap (Text.Piece.fill id)

/-- At no place can more than one text of the table stand. -/
def Unambiguous (table : SymbolTable) : Prop :=
  ∀ r ∈ table, r.1 ≠ [] ∧ ∀ s ∈ table, s ≠ r → ¬s.1 <+: r.1 ∧ ¬r.1 <+: s.1

instance (table : SymbolTable) : Decidable (Unambiguous table) :=
  inferInstanceAs (Decidable
    (∀ r ∈ table, r.1 ≠ [] ∧ ∀ s ∈ table, s ≠ r → ¬s.1 <+: r.1 ∧ ¬r.1 <+: s.1))

theorem Unambiguous.eq {table : SymbolTable} (hu : Unambiguous table) {r s : Text × Text} {t : Text}
    (hs : s ∈ table) (hr : r ∈ table) (h : s.1 <+: r.1 ++ t) : s = r := by
  by_contra hsr
  obtain ⟨h₁, h₂⟩ := (hu r hr).2 s hs hsr
  rcases List.prefix_or_prefix_of_prefix h (List.prefix_append r.1 t) with h | h
  · exact h₁ h
  · exact h₂ h

theorem scan_cons {table : SymbolTable} {c : Char} {t : Text}
    (h : ∀ r ∈ table, ¬r.1 <+: c :: t) : scan table (c :: t) = c :: scan table t := by
  have hnone : (table.find? fun r => r.1.isPrefixOf (c :: t)) = none :=
    List.find?_eq_none.2 fun r hr hp => h r hr (List.isPrefixOf_iff_prefix.1 hp)
  have hrule : firstOf table (c :: t) = none := by rw [firstOf, hnone, Option.map_none]
  rw [scan, Text.pieces_char hrule, List.flatMap_cons]
  rfl

theorem scan_append {table : SymbolTable} (hu : Unambiguous table) {r : Text × Text}
    (hr : r ∈ table) (t : Text) : scan table (r.1 ++ t) = r.2 ++ scan table t := by
  have hp : r.1.isPrefixOf (r.1 ++ t) = true :=
    List.isPrefixOf_iff_prefix.2 (List.prefix_append r.1 t)
  have hfind : (table.find? fun s => s.1.isPrefixOf (r.1 ++ t)) = some r := by
    cases hs : table.find? fun s => s.1.isPrefixOf (r.1 ++ t) with
    | none => exact absurd hp (List.find?_eq_none.1 hs r hr)
    | some s =>
      have hfit : s.1.isPrefixOf (r.1 ++ t) = true := by
        simpa using List.find?_some hs
      rw [hu.eq (List.mem_of_find?_eq_some hs) hr (List.isPrefixOf_iff_prefix.1 hfit)]
  have hrule : firstOf table (r.1 ++ t) = some (r.1.length, r.2) := by
    rw [firstOf, hfind, Option.map_some]
  rw [scan, Text.pieces_match (hu r hr).1 hrule, List.flatMap_cons]
  rfl

/-! ## The raw text -/

/-- Shorthands as authors write them, and what stands for them in a page. -/
def shorthands : SymbolTable :=
  [("-->", "&rarr;"), ("[code]", "<code>"), ("[/code]", "</code>"), ("[p]", "<p>"),
    ("[/p]", "</p>"), ("[url]", "<a href=\"\">"), ("[/url]", "</a>")]

/-- The characters that open markup, and the references that stand for them in a page. -/
def charReferences : SymbolTable := [("&", "&amp;"), ("<", "&#60;"), (">", "&#62;")]

/-- A raw text as it stands in a page: shorthands and the characters that open markup give way to
what stands for them, and every other character stays. -/
def typeset (t : Text) : Text := scan (shorthands ++ charReferences) t

theorem unambiguous_raw : Unambiguous (shorthands ++ charReferences) := by decide

theorem symbols_eq : symbols = shorthands.map fun r => (escape r.1, r.2) := rfl

theorem escape_append (s t : Text) : escape (s ++ t) = escape s ++ escape t := List.flatMap_append

theorem escape_cons (c : Char) (t : Text) : escape (c :: t) = escapeChar c ++ escape t := rfl

def IsOrdinary (c : Char) : Prop := c ≠ '&' ∧ c ≠ '<' ∧ c ≠ '>'

instance (c : Char) : Decidable (IsOrdinary c) :=
  inferInstanceAs (Decidable (c ≠ '&' ∧ c ≠ '<' ∧ c ≠ '>'))

theorem eq_of_not_isOrdinary {c : Char} (h : ¬IsOrdinary c) : c = '&' ∨ c = '<' ∨ c = '>' := by
  rwa [IsOrdinary, not_and_or, not_and_or, not_not, not_not, not_not] at h

theorem IsOrdinary.escapeChar_eq {c : Char} (h : IsOrdinary c) : escapeChar c = [c] := by
  unfold escapeChar
  split
  · exact absurd rfl h.1
  · exact absurd rfl h.2.1
  · exact absurd rfl h.2.2
  · rfl

theorem eq_of_escapeChar_isPrefix {c d : Char} {t : Text} (h : escapeChar c <+: escapeChar d ++ t) :
    c = d := by
  by_cases hc : IsOrdinary c
  · rw [hc.escapeChar_eq] at h
    by_cases hd : IsOrdinary d
    · rw [hd.escapeChar_eq] at h
      exact (List.cons_prefix_cons.1 h).1
    · -- The reference that stands for `d` begins with an ampersand, and `c` is none.
      rcases eq_of_not_isOrdinary hd with rfl | rfl | rfl <;>
        exact absurd (List.cons_prefix_cons.1 h).1 hc.1
  · by_cases hd : IsOrdinary d
    · rw [hd.escapeChar_eq] at h
      rcases eq_of_not_isOrdinary hc with rfl | rfl | rfl <;>
        exact absurd (List.cons_prefix_cons.1 h).1.symm hd.1
    · have hmem : ∀ e, ¬IsOrdinary e → ([e], escapeChar e) ∈ charReferences := fun e he => by
        rcases eq_of_not_isOrdinary he with rfl | rfl | rfl <;> decide
      have hapart : ∀ r ∈ charReferences, ∀ q ∈ charReferences, r.2 <+: q.2 → r = q := by decide
      rcases List.prefix_or_prefix_of_prefix h (List.prefix_append _ t) with h | h
      · have hrow := hapart _ (hmem c hc) _ (hmem d hd) h
        exact (List.cons.inj (congrArg Prod.fst hrow)).1
      · have hrow := hapart _ (hmem d hd) _ (hmem c hc) h
        exact (List.cons.inj (congrArg Prod.fst hrow)).1.symm

theorem escapeChar_ne_nil (c : Char) : escapeChar c ≠ [] := by
  unfold escapeChar
  split <;> simp

theorem escape_isPrefix {s t : Text} (h : escape s <+: escape t) : s <+: t := by
  induction s generalizing t with
  | nil => exact List.nil_prefix
  | cons c s ih =>
    cases t with
    | nil =>
      rw [escape_cons] at h
      exact absurd (List.append_eq_nil_iff.1 (List.prefix_nil.1 h)).1 (escapeChar_ne_nil c)
    | cons d t =>
      rw [escape_cons, escape_cons] at h
      cases eq_of_escapeChar_isPrefix ((List.prefix_append _ _).trans h)
      exact List.cons_prefix_cons.2 ⟨rfl, ih ((List.prefix_append_right_inj _).1 h)⟩

theorem isOrdinary_of_not_isPrefix {c : Char} {t : Text}
    (h : ∀ r ∈ shorthands ++ charReferences, ¬r.1 <+: c :: t) : IsOrdinary c := by
  have href : ∀ r ∈ charReferences, ¬r.1 <+: c :: t := fun r hr =>
    h r (List.mem_append_right _ hr)
  refine ⟨?_, ?_, ?_⟩
  · rintro rfl
    exact href ("&", "&amp;") (by decide) ⟨t, rfl⟩
  · rintro rfl
    exact href ("<", "&#60;") (by decide) ⟨t, rfl⟩
  · rintro rfl
    exact href (">", "&#62;") (by decide) ⟨t, rfl⟩

theorem substitute_escape_eq (t : Text) : substitute (escape t) = typeset t := by
  induction t using table_induction fun r hr => (unambiguous_raw r hr).1 with
  | nil => rfl
  | hit r hr t ih =>
    rw [escape_append, typeset, scan_append unambiguous_raw hr, ← typeset, ← ih]
    rcases List.mem_append.1 hr with hr | hr
    · have hsymbol : (escape r.1, r.2) ∈ symbols := by
        rw [symbols_eq]
        exact List.mem_map_of_mem hr
      exact substituteBy_symbol compatible_symbols hsymbol (escape t)
    · -- A character reference, in which no symbol begins.
      have href : ∀ r ∈ charReferences, escape r.1 = r.2 ∧
          ∀ s ∈ symbols, Text.StartsNowhere s.1 r.2 := by decide
      obtain ⟨hescape, hskip⟩ := href r hr
      rw [hescape]
      exact substituteBy_append_of_startsNowhere hskip (escape t)
  | char c t hchar ih =>
    have hescape : escape (c :: t) = c :: escape t := by
      rw [escape_cons, (isOrdinary_of_not_isPrefix hchar).escapeChar_eq, List.singleton_append]
    have hsymbols : ∀ s ∈ symbols, ¬s.1 <+: c :: escape t := by
      rw [symbols_eq]
      intro s hs
      obtain ⟨r, hr, rfl⟩ := List.mem_map.1 hs
      intro hp
      refine hchar r (List.mem_append_left _ hr) (escape_isPrefix ?_)
      rwa [hescape]
    rw [hescape, substitute, substituteBy_char compatible_symbols hsymbols, typeset,
      scan_cons hchar]
    exact congrArg (c :: ·) ih

/-- Shorthands, and what stands for them, do not occur in each other or in references, and what
stands for them starts with a character that is not ordinary. -/
theorem shorthands_apart : ∀ r ∈ shorthands,
    (r.1 ≠ [] ∧ Text.StartsNowhere r.1 r.1.tail) ∧ (r.2 ≠ [] ∧ Text.StartsNowhere r.2 r.2.tail) ∧
    (∀ q ∈ shorthands ++ charReferences, q ≠ r →
      Text.StartsNowhere r.1 q.1 ∧ Text.StartsNowhere r.2 q.2) ∧
    (r.2.head? = some '&' ∨ r.2.head? = some '<') := by decide

/-- What stands for a shorthand occurs in a page as often as the shorthand in the raw text. -/
theorem occurrences_typeset {r : Text × Text} (hr : r ∈ shorthands) (t : Text) :
    Text.occurrences r.2 (typeset t) = Text.occurrences r.1 t := by
  obtain ⟨⟨hne₁, hself₁⟩, ⟨hne₂, hself₂⟩, hother, hhead⟩ := shorthands_apart r hr
  induction t using table_induction fun q hq => (unambiguous_raw q hq).1 with
  | nil =>
    have hnil : ∀ p : Text, p ≠ [] → Text.occurrences p [] = 0 := fun p hp => by
      cases p with
      | nil => exact absurd rfl hp
      | cons c p => rfl
    exact (hnil r.2 hne₂).trans (hnil r.1 hne₁).symm
  | hit q hq t ih =>
    rw [typeset, scan_append unambiguous_raw hq, ← typeset]
    by_cases hqr : q = r
    · rw [hqr, Text.occurrences_self_append hne₁ hself₁,
        Text.occurrences_self_append hne₂ hself₂, ih]
    · obtain ⟨h₁, h₂⟩ := hother q hq hqr
      rw [Text.occurrences_append_of_startsNowhere h₁,
        Text.occurrences_append_of_startsNowhere h₂, ih]
  | char c t hchar ih =>
    have hmiss : ¬r.2 <+: c :: typeset t := by
      rintro ⟨u, hu⟩
      obtain ⟨hamp, hlt, _⟩ := isOrdinary_of_not_isPrefix hchar
      have hc : r.2.head? = some c := by
        rw [← List.head?_append_of_ne_nil r.2 hne₂, hu, List.head?_cons]
      rcases hhead with h | h
      · exact hamp (Option.some.inj (hc.symm.trans h))
      · exact hlt (Option.some.inj (hc.symm.trans h))
    rw [typeset, scan_cons hchar, ← typeset, Text.occurrences_cons hmiss,
      Text.occurrences_cons (hchar r (List.mem_append_left _ hr)), ih]

/-- The escape of a text is three replacements, that of ampersands first. -/
theorem escape_eq_replace (t : Text) : escape t =
    Text.replace ">" "&#62;" (Text.replace "<" "&#60;" (Text.replace "&" "&amp;" t)) := by
  have hamp : ("&" : Text) = ['&'] := rfl
  have hlt : ("<" : Text) = ['<'] := rfl
  have hgt : (">" : Text) = ['>'] := rfl
  rw [hamp, hlt, hgt, Text.replace_singleton, Text.replace_singleton, Text.replace_singleton,
    List.flatMap_assoc, List.flatMap_assoc, escape]
  congr 1
  funext c
  by_cases hc : IsOrdinary c
  · rw [hc.escapeChar_eq, if_neg hc.1, List.flatMap_singleton, if_neg hc.2.1,
      List.flatMap_singleton, if_neg hc.2.2]
  · rcases eq_of_not_isOrdinary hc with rfl | rfl | rfl <;> rfl

/-- Escaping a raw text and replacing the symbols in it, in any order, is one scan over the raw
text, and a page shows markup of shorthands for those of the raw text and for nothing else. -/
theorem substitute_escape (t : Text) :
    escape t =
        Text.replace ">" "&#62;" (Text.replace "<" "&#60;" (Text.replace "&" "&amp;" t)) ∧
      substitute (escape t) = typeset t ∧
      (∀ table : SymbolTable, table.Perm symbols → substituteBy table (escape t) = typeset t) ∧
      ∀ r ∈ shorthands,
        Text.occurrences r.2 (substitute (escape t)) = Text.occurrences r.1 t := by
  refine ⟨escape_eq_replace t, substitute_escape_eq t, fun table h => ?_, fun r hr => ?_⟩
  · exact (substituteBy_perm compatible_symbols h _).trans (substitute_escape_eq t)
  · rw [substitute_escape_eq, occurrences_typeset hr]

/-- Imitated escapes stay what they are, and an arrow takes the last two of many dashes. -/
example : substitute (escape "--&#62; &rarr; [[p]] ---->") =
    "--&amp;#62; &amp;rarr; [<p>] --&rarr;" := by decide

end Html
end CommentDocs
