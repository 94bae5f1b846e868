/-!
# CommentDocs.Text.Basic

Text as a list of characters, so that every reader and printer of the library is a recursion on
its input and can be evaluated by the kernel.

* `lines` cuts text at line ends. A carriage return belongs to the line end that follows it and is
  an ordinary character anywhere else.
* `splitWhen` cuts at every character of a class, `splitOnce` at the first occurrence of one
  character. Both keep everything else, in order (`splitWhen_free`, `splitOnce_eq_some`).
-/

namespace CommentDocs

abbrev Text := List Char

instance : Coe String Text := ⟨String.toList⟩

namespace Text

/-- The lines of a text, without their line ends. A line end at the very end opens no further
line. -/
def lines : Text → List Text
  | [] => []
  | '\n' :: t => [] :: lines t
  | '\r' :: '\n' :: t => [] :: lines t
  | c :: t =>
    match lines t with
    | [] => [[c]]
    | l :: ls => (c :: l) :: ls

def unlines (ls : List Text) : Text := ls.flatMap (· ++ ['\n'])

/-- The pieces between the characters of a class, empty ones included. -/
def splitWhen (p : Char → Bool) : Text → List Text
  | [] => [[]]
  | c :: t =>
    if p c then [] :: splitWhen p t
    else
      match splitWhen p t with
      | [] => [[c]]
      | w :: ws => (c :: w) :: ws

def splitOnce (x : Char) : Text → Option (Text × Text)
  | [] => none
  | c :: t => if c = x then some ([], t) else (splitOnce x t).map fun (a, b) => (c :: a, b)

def byteLength (t : Text) : Nat := t.foldr (fun c n => c.utf8Size + n) 0

/-- Cuts the text behind its first `n` bytes; `none` if that is past its end or inside a
character. -/
def splitBytes? : Nat → Text → Option (Text × Text)
  | 0, t => some ([], t)
  | _ + 1, [] => none
  | n + 1, c :: t =>
    if c.utf8Size ≤ n + 1 then
      (splitBytes? (n + 1 - c.utf8Size) t).map fun (a, b) => (c :: a, b)
    else none

def slice? (start size : Nat) (t : Text) : Option Text :=
  match splitBytes? start t with
  | none => none
  | some (_, rest) => (splitBytes? size rest).map Prod.fst

def ofNat (n : Nat) : Text := Nat.toDigits 10 n

theorem splitWhen_ne_nil (p : Char → Bool) (t : Text) : splitWhen p t ≠ [] := by
  fun_induction splitWhen p t <;> simp

theorem splitWhen_free {p : Char → Bool} {t w : Text} (h : w ∈ splitWhen p t) :
    ∀ c ∈ w, p c = false := by
  fun_induction splitWhen p t generalizing w with
  | case1 => simp_all
  | case2 c t hc ih =>
    rcases List.mem_cons.1 h with rfl | h
    · simp
    · exact ih h
  | case3 c t hc hs ih => exact absurd hs (splitWhen_ne_nil p t)
  | case4 c t hc v vs hs ih =>
    rw [hs] at ih
    rcases List.mem_cons.1 h with rfl | h
    · intro d hd
      rcases List.mem_cons.1 hd with rfl | hd
      · simpa using hc
      · exact ih (List.mem_cons_self ..) d hd
    · exact ih (List.mem_cons_of_mem _ h)

theorem splitWhen_of_free {p : Char → Bool} {t : Text} (h : ∀ c ∈ t, p c = false) :
    splitWhen p t = [t] := by
  induction t with
  | nil => rfl
  | cons c t ih =>
    rw [splitWhen, h c (List.mem_cons_self ..)]
    rw [ih fun d hd => h d (List.mem_cons_of_mem c hd)]
    rfl

theorem splitWhen_of_not_mem {x : Char} {t : Text} (h : x ∉ t) : splitWhen (· = x) t = [t] := by
  refine splitWhen_of_free fun c hc => ?_
  rw [decide_eq_false_iff_not]
  rintro rfl
  exact h hc

theorem splitWhen_append_cons {p : Char → Bool} {c : Char} (h : p c = true) (x y : Text) :
    splitWhen p (x ++ c :: y) = splitWhen p x ++ splitWhen p y := by
  induction x with
  | nil => simp [splitWhen, h]
  | cons d x ih =>
    rw [List.cons_append, splitWhen, splitWhen]
    split
    · rw [ih, List.cons_append]
    · rw [ih]
      cases hx : splitWhen p x with
      | nil => exact absurd hx (splitWhen_ne_nil p x)
      | cons w ws => rfl

theorem splitOnce_eq_some {x : Char} {t a b : Text} :
    splitOnce x t = some (a, b) ↔ t = a ++ x :: b ∧ x ∉ a := by
  induction t generalizing a with
  | nil => simp [splitOnce]
  | cons c t ih =>
    by_cases h : c = x
    · cases a <;> simp_all [splitOnce, eq_comm]
    · cases a with
      | nil => simp [splitOnce, h]
      | cons d a =>
        have hx : x ≠ c := fun e => h e.symm
        simp only [splitOnce, h, if_false, Option.map_eq_some_iff, Prod.mk.injEq, List.cons.injEq,
          Prod.exists, List.cons_append, List.mem_cons, not_or]
        constructor
        · rintro ⟨u, v, huv, ⟨rfl, rfl⟩, rfl⟩
          obtain ⟨rfl, hu⟩ := ih.1 huv
          exact ⟨⟨rfl, rfl⟩, hx, hu⟩
        · rintro ⟨⟨rfl, rfl⟩, _, hu⟩
          exact ⟨a, b, ih.2 ⟨rfl, hu⟩, ⟨rfl, rfl⟩, rfl⟩

theorem splitOnce_eq_none {x : Char} {t : Text} : splitOnce x t = none ↔ x ∉ t := by
  induction t with
  | nil => simp [splitOnce]
  | cons c t ih =>
    by_cases h : c = x
    · simp [splitOnce, h]
    · have hx : x ≠ c := fun e => h e.symm
      simp [splitOnce, h, ih, hx]

end Text

end CommentDocs
