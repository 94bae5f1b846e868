import CommentDocs.Format.Markdown
import Mathlib.Data.List.Induction

/-!
# CommentDocs.Proofs.Markdown.Backslashes

The backslashes before the angle brackets of a description. Two backslashes in a row are a
backslash, so a bracket is escaped if an odd number of them stands before it (`BracketsEscaped`).
Escaping puts one backslash before each bracket and leaves those that the author wrote
(`escape_eq_append`, `backslashes_escape`). A bracket that the author wrote behind an odd number of
backslashes is therefore set free, and these are the only ones: `escape_brackets`.
-/

namespace CommentDocs
namespace Markdown

/-- How many backslashes stand at the end of a text. -/
def backslashes (t : Text) : Nat := (t.reverse.takeWhile (· = '\\')).length

def IsBracket (c : Char) : Prop := c = '<' ∨ c = '>'

instance (c : Char) : Decidable (IsBracket c) := inferInstanceAs (Decidable (c = '<' ∨ c = '>'))

/-- Before each angle bracket stands an odd number of backslashes. -/
def BracketsEscaped (t : Text) : Prop :=
  ∀ a c b, t = a ++ c :: b → IsBracket c → backslashes a % 2 = 1

/-- Before each angle bracket stands an even number of backslashes, if any. -/
def BracketsBare (t : Text) : Prop :=
  ∀ a c b, t = a ++ c :: b → IsBracket c → backslashes a % 2 = 0

variable {c : Char} {s t w : Text}

/-! ## Counting -/

theorem backslashes_concat_backslash (t : Text) :
    backslashes (t ++ ['\\']) = backslashes t + 1 := by
  simp [backslashes]

theorem backslashes_concat (hc : c ≠ '\\') (t : Text) : backslashes (t ++ [c]) = 0 := by
  simp [backslashes, hc]

theorem backslashes_append (hw : backslashes w = 0) (t : Text) :
    backslashes (w ++ t) = backslashes t := by
  induction t using List.reverseRecOn with
  | nil =>
    rw [List.append_nil, hw]
    rfl
  | append_singleton t c ih =>
    rw [← List.append_assoc]
    by_cases hc : c = '\\'
    · rw [hc, backslashes_concat_backslash, backslashes_concat_backslash, ih]
    · rw [backslashes_concat hc, backslashes_concat hc]

/-! ## Escaping -/

theorem escape_append (s t : Text) : escape (s ++ t) = escape s ++ escape t := List.flatMap_append

theorem escape_cons_of_isBracket (hc : IsBracket c) (t : Text) :
    escape (c :: t) = '\\' :: c :: escape t := by
  rcases hc with rfl | rfl <;> rfl

theorem escape_cons_of_not_isBracket (hc : ¬IsBracket c) (t : Text) :
    escape (c :: t) = c :: escape t := by
  have hchar : escapeChar c = [c] := by
    unfold escapeChar
    split
    · exact absurd (.inl rfl) hc
    · exact absurd (.inr rfl) hc
    · rfl
  exact congrArg (· ++ escape t) hchar

theorem IsBracket.ne_backslash (hc : IsBracket c) : c ≠ '\\' := by
  rcases hc with rfl | rfl <;> decide

theorem backslashes_escape (t : Text) : backslashes (escape t) = backslashes t := by
  induction t using List.reverseRecOn with
  | nil => rfl
  | append_singleton t c ih =>
    rw [escape_append]
    by_cases hbracket : IsBracket c
    · have hcut : escape t ++ escape [c] = escape t ++ ['\\'] ++ [c] := by
        rw [escape_cons_of_isBracket hbracket, List.append_assoc]
        rfl
      rw [hcut, backslashes_concat hbracket.ne_backslash, backslashes_concat hbracket.ne_backslash]
    · have hsingle : escape [c] = [c] := escape_cons_of_not_isBracket hbracket []
      rw [hsingle]
      by_cases hc : c = '\\'
      · rw [hc, backslashes_concat_backslash, backslashes_concat_backslash, ih]
      · rw [backslashes_concat hc, backslashes_concat hc]

/-- The brackets of an escaped text are those of the text, each behind one more backslash. -/
theorem escape_eq_append (hc : IsBracket c) {a b : Text} :
    escape s = a ++ c :: b ↔
      ∃ u v, s = u ++ c :: v ∧ a = escape u ++ ['\\'] ∧ b = escape v := by
  constructor
  · intro h
    -- The bracket is that of the first character, or it stands in what the others were made into.
    induction s generalizing a with
    | nil => simp [escape] at h
    | cons d s ih =>
      by_cases hd : IsBracket d
      · rw [escape_cons_of_isBracket hd] at h
        match a, h with
        | [], h => exact absurd (List.cons.inj h).1.symm hc.ne_backslash
        | [x], h =>
          cases h
          exact ⟨[], s, rfl, rfl, rfl⟩
        | x :: y :: a, h =>
          simp only [List.cons_append, List.cons.injEq] at h
          obtain ⟨rfl, rfl, h⟩ := h
          obtain ⟨u, v, rfl, rfl, rfl⟩ := ih h
          exact ⟨d :: u, v, rfl, by rw [escape_cons_of_isBracket hd]; rfl, rfl⟩
      · rw [escape_cons_of_not_isBracket hd] at h
        cases a with
        | nil => exact absurd ((List.cons.inj h).1 ▸ hc) hd
        | cons x a =>
          simp only [List.cons_append, List.cons.injEq] at h
          obtain ⟨rfl, h⟩ := h
          obtain ⟨u, v, rfl, rfl, rfl⟩ := ih h
          exact ⟨d :: u, v, rfl, by rw [escape_cons_of_not_isBracket hd]; rfl, rfl⟩
  · rintro ⟨u, v, rfl, rfl, rfl⟩
    rw [escape_append, escape_cons_of_isBracket hc, List.append_assoc]
    rfl

theorem backslashes_escape_concat (t : Text) :
    backslashes (escape t ++ ['\\']) = backslashes t + 1 := by
  rw [backslashes_concat_backslash, backslashes_escape]

theorem bracketsEscaped_escape : BracketsEscaped (escape s) ↔ BracketsBare s := by
  constructor
  · intro h u c v hs hc
    have hodd := h _ c _ ((escape_eq_append hc).2 ⟨u, v, hs, rfl, rfl⟩) hc
    rw [backslashes_escape_concat] at hodd
    omega
  · intro h a c b hs hc
    obtain ⟨u, v, hu, rfl, -⟩ := (escape_eq_append hc).1 hs
    have heven := h u c v hu hc
    rw [backslashes_escape_concat]
    omega

/-! ## Descriptions -/

theorem bracketsEscaped_append (hbackslashes : backslashes w = 0)
    (hbrackets : ∀ c ∈ w, ¬IsBracket c) : BracketsEscaped (w ++ t) ↔ BracketsEscaped t := by
  constructor
  · intro h a c b ht hc
    have hodd := h (w ++ a) c b (by rw [ht, List.append_assoc]) hc
    rwa [backslashes_append hbackslashes] at hodd
  · intro h a c b ht hc
    rcases List.append_eq_append_iff.1 ht with ⟨a', rfl, hcut⟩ | ⟨b', hw, hcut⟩
    · rw [backslashes_append hbackslashes]
      exact h a' c b hcut hc
    · cases b' with
      | nil =>
        have ha : backslashes a = 0 := by rw [← List.append_nil a, ← hw, hbackslashes]
        rw [ha]
        exact h [] c b hcut.symm hc
      | cons d b' =>
        obtain ⟨rfl, -⟩ := List.cons.inj hcut
        exact absurd hc (hbrackets c (hw ▸ List.mem_append_right a List.mem_cons_self))

theorem bracketsEscaped_nil : BracketsEscaped [] := by
  intro a c b h
  simp at h

theorem bracketsBare_nil : BracketsBare [] := by
  intro a c b h
  simp at h

theorem bracketsEscaped_description :
    (∀ b ∈ description t, BracketsEscaped b) ↔ BracketsBare (Text.trim t) := by
  unfold description
  split
  · rename_i htrim
    rw [htrim]
    exact iff_of_true (by simp) bracketsBare_nil
  · rw [List.forall_mem_cons, List.forall_mem_singleton, bracketsEscaped_escape]
    exact and_iff_left bracketsEscaped_nil

theorem bracketsEscaped_item (p : Param) :
    ∃ rest, item p = "* " ++ code p.label ++ rest ∧
      (BracketsEscaped rest ↔ BracketsBare (Text.trim p.description)) := by
  unfold item
  refine ⟨_, rfl, ?_⟩
  split
  · rename_i htrim
    rw [htrim]
    exact iff_of_true bracketsEscaped_nil bracketsBare_nil
  · have hbrackets : ∀ c ∈ (": " : Text), ¬IsBracket c :=
      List.forall_mem_cons.2 ⟨by decide, List.forall_mem_singleton.2 (by decide)⟩
    rw [bracketsEscaped_append (by decide) hbrackets, bracketsEscaped_escape]

/-- The brackets of an escaped text are those of the text, each behind one backslash more than the
author wrote. So they are all escaped if and only if the author wrote an even number of backslashes
before each, and the same holds of a description below a heading and of the one in an item. -/
theorem escape_brackets (s : Text) :
    (∀ a c b, IsBracket c → (escape s = a ++ c :: b ↔
      ∃ u v, s = u ++ c :: v ∧ a = escape u ++ ['\\'] ∧ b = escape v)) ∧
      (∀ u, backslashes (escape u ++ ['\\']) = backslashes u + 1) ∧
      (BracketsEscaped (escape s) ↔ BracketsBare s) ∧
      ((∀ b ∈ description s, BracketsEscaped b) ↔ BracketsBare (Text.trim s)) ∧
      ∀ label, ∃ rest, item ⟨label, s⟩ = "* " ++ code label ++ rest ∧
        (BracketsEscaped rest ↔ BracketsBare (Text.trim s)) :=
  ⟨fun _ _ _ hc => escape_eq_append hc, backslashes_escape_concat, bracketsEscaped_escape,
    bracketsEscaped_description, fun label => bracketsEscaped_item ⟨label, s⟩⟩

/-- A bracket behind one backslash stands behind two when the text has been escaped. -/
theorem bracket_unescaped : ¬BracketsEscaped (escape "\\<b>") := by
  intro h
  exact absurd (h ['\\', '\\'] '<' "b\\>" rfl (.inl rfl)) (by decide)

end Markdown
end CommentDocs
