import CommentDocs.Proofs.Disk.ReadBack
import Mathlib.Data.List.Basic
import Mathlib.Data.List.Induction

/-!
# CommentDocs.Proofs.Disk.Places

Where paths lead. The components of a path say where it leads if everything on the way is there
(`Disk.place`, `resolve_eq_place`), so two spellings of a path, each of which leads to a file, lead
to the same one (`readText_eq_of_components_eq`). Each beginning of the path of a directory is the
path of a directory (`isDir_beginnings`).

Components are read off a path that is joined from parts (`components_join`), and they are read
again from the path that is written from them (`components_ofComponents`); so the directories above
a path are its beginnings (`components_of_mem_parents`).
-/

namespace CommentDocs
namespace Path

/-! ## Components of joined paths -/

def origin (p : Path) : List Component :=
  if isAbsolute p then [.root]
  else if (segments p).head? = some ("." : Text) then [.here]
  else []

def steps (p : Path) : List Component := (segments p).filterMap component?

theorem components_eq (p : Path) : components p = origin p ++ steps p := rfl

theorem segments_append_slash (p q : Path) :
    segments (p ++ '/' :: q) = segments p ++ segments q :=
  Text.splitWhen_append_cons (by decide) p q

theorem steps_append_slash (p q : Path) : steps (p ++ '/' :: q) = steps p ++ steps q := by
  rw [steps, segments_append_slash, List.filterMap_append, steps, steps]

theorem origin_append_slash {p : Path} (hp : p ≠ []) (q : Path) :
    origin (p ++ '/' :: q) = origin p := by
  have habsolute : isAbsolute (p ++ '/' :: q) = isAbsolute p := by
    rw [isAbsolute, isAbsolute, List.head?_append_of_ne_nil p hp]
  have hhead : (segments (p ++ '/' :: q)).head? = (segments p).head? := by
    have hsegments : segments p ≠ [] := Text.splitWhen_ne_nil _ p
    rw [segments_append_slash, List.head?_append_of_ne_nil _ hsegments]
  rw [origin, origin, habsolute, hhead]

theorem components_append_slash {p : Path} (hp : p ≠ []) (q : Path) :
    components (p ++ '/' :: q) = components p ++ steps q := by
  rw [components_eq, components_eq, origin_append_slash hp, steps_append_slash, List.append_assoc]

theorem components_join {p q : Path} (hp : p ≠ []) (hq : isAbsolute q = false) :
    components (join p q) = components p ++ steps q := by
  rw [join, if_neg (by simp [hq])]
  split
  · rename_i hend
    have hslash : p.getLast? = some '/' := hend.resolve_left hp
    obtain ⟨front, rfl⟩ : ∃ front, p = front ++ ['/'] := by
      refine ⟨p.dropLast, ?_⟩
      rw [List.getLast?_eq_some_getLast hp, Option.some.injEq] at hslash
      rw [← hslash, List.dropLast_concat_getLast]
    rw [List.append_assoc, List.singleton_append]
    cases front with
    | nil => exact congrArg (Component.root :: ·) (steps_append_slash [] q)
    | cons c front =>
      have hfront : c :: front ≠ [] := List.cons_ne_nil c front
      rw [components_append_slash hfront, components_append_slash hfront]
      exact congrArg (· ++ steps q) (List.append_nil _).symm
  · exact components_append_slash hp q

/-! ## Components written and read again -/

/-- A component that can stand behind others. -/
def Component.Follows (c : Component) : Prop := component? c.text = some c ∧ '/' ∉ c.text

theorem follows_of_mem_steps {p : Path} {c : Component} (h : c ∈ steps p) : c.Follows := by
  obtain ⟨segment, hsegment, hc⟩ := List.mem_filterMap.1 h
  have hslash : '/' ∉ segment := fun hm => by
    simpa using Text.splitWhen_free hsegment '/' hm
  have htext : c.text = segment := by
    rw [component?] at hc
    split at hc
    · cases hc
    · split at hc
      · rename_i hup
        cases hc
        exact hup.symm
      · cases hc
        rfl
  rw [Component.Follows, htext]
  exact ⟨hc, hslash⟩

theorem segments_of_not_mem {p : Path} (h : '/' ∉ p) : segments p = [p] :=
  Text.splitWhen_of_not_mem h

theorem isAbsolute_of_not_mem {p : Path} (h : '/' ∉ p) : isAbsolute p = false := by
  cases p with
  | nil => rfl
  | cons c p =>
    have hc : c ≠ '/' := fun hc => h (hc ▸ List.mem_cons_self ..)
    simpa [isAbsolute] using hc

namespace Component.Follows

variable {c : Component}

theorem steps_text (h : c.Follows) : steps c.text = [c] := by
  rw [steps, segments_of_not_mem h.2, List.filterMap_cons_some h.1, List.filterMap_nil]

theorem components_text (h : c.Follows) : components c.text = [c] := by
  have hdot : c.text ≠ "." := by
    intro hdot
    have := h.1
    rw [hdot] at this
    cases this
  have horigin : origin c.text = [] := by
    rw [origin, isAbsolute_of_not_mem h.2, segments_of_not_mem h.2, List.head?_cons,
      if_neg (by decide), if_neg fun he => hdot (Option.some.inj he)]
  rw [components_eq, horigin, h.steps_text, List.nil_append]

end Component.Follows

theorem components_ofComponents {first rest : List Component}
    (hfirst : first = [] ∨ first = [.root] ∨ first = [.here]) (hrest : ∀ c ∈ rest, c.Follows) :
    components (ofComponents (first ++ rest)) = first ++ rest := by
  induction rest using List.reverseRecOn with
  | nil => rcases hfirst with rfl | rfl | rfl <;> decide
  | append_singleton rest c ih =>
    have hc : c.Follows := hrest c (by simp)
    have hrest' := ih fun b hb => hrest b (List.mem_append_left _ hb)
    have hsnoc : ofComponents (first ++ (rest ++ [c])) =
        join (ofComponents (first ++ rest)) c.text := by
      rw [ofComponents, ← List.append_assoc, List.foldl_append, ofComponents]
      rfl
    have habsolute := isAbsolute_of_not_mem hc.2
    rw [hsnoc, ← List.append_assoc]
    by_cases hnil : ofComponents (first ++ rest) = []
    · rw [hnil] at hrest'
      rw [hnil, ← hrest', join, if_neg (by simp [habsolute]), if_pos (.inl rfl)]
      exact hc.components_text
    · rw [components_join hnil habsolute, hrest', hc.steps_text]

/-- Any beginning of the components of a path can be written as a path. -/
theorem components_beginning (p : Path) (n : Nat) :
    components (ofComponents ((components p).take n)) = (components p).take n := by
  rw [components_eq p, List.take_append]
  refine components_ofComponents ?_ fun c hc => follows_of_mem_steps (List.mem_of_mem_take hc)
  rw [origin]
  split
  · cases n <;> simp
  · split
    · cases n <;> simp
    · simp

theorem components_of_mem_parents {p q : Path} (h : q ∈ p.parents) :
    ∃ n, 0 < n ∧ components q = (components p).take n := by
  obtain ⟨n, _, hn⟩ := List.mem_filterMap.1 h
  split at hn
  · cases hn
  · rename_i hpos
    cases hn
    exact ⟨n, Nat.pos_of_ne_zero hpos, components_beginning p n⟩

end Path

namespace Disk

open CommentDocs.Path (Component)

variable {d : Disk} {p q : Path} {loc loc' : Location}

/-! ## Places -/

/-- Where one component leads to, if that is there. -/
def enter (loc : Location) : Component → Location
  | .root => []
  | .here => loc
  | .up => loc.dropLast
  | .name n => loc ++ [n]

/-- Where components lead to from the current directory, if everything on the way is there. -/
def place (d : Disk) (cs : List Component) : Location := cs.foldl enter d.current

theorem place_append_name (d : Disk) (cs : List Component) (n : Text) :
    d.place (cs ++ [.name n]) = d.place cs ++ [n] := by
  rw [place, List.foldl_append]
  rfl

theorem Enters.component? {segment : Text} (h : d.Enters loc segment loc') :
    loc' = (Path.component? segment).elim loc (enter loc) := by
  cases h with
  | here hhere => rw [Path.component?, if_pos hhere, Option.elim_none]
  | up hup =>
    have hhere : ¬(segment = [] ∨ segment = ".") := by
      rw [hup]
      decide
    rw [Path.component?, if_neg hhere, if_pos hup, Option.elim_some, enter]
  | name hhere hup _ _ => rw [Path.component?, if_neg hhere, if_neg hup, Option.elim_some, enter]

theorem walk_eq_foldl {segments : List Text} (h : d.walk loc segments = .ok loc') :
    loc' = (segments.filterMap Path.component?).foldl enter loc := by
  induction segments generalizing loc with
  | nil =>
    cases h
    rfl
  | cons segment segments ih =>
    obtain ⟨_, next, hnext, h⟩ := walk_cons_iff.1 h
    rw [ih h, hnext.component?]
    cases hc : Path.component? segment with
    | none => rw [List.filterMap_cons_none hc, Option.elim_none]
    | some c => rw [List.filterMap_cons_some hc, Option.elim_some, List.foldl_cons]

theorem place_components (d : Disk) (p : Path) :
    d.place p.components = p.steps.foldl enter (d.start p) := by
  have horigin : p.origin.foldl enter d.current = d.start p := by
    rw [Path.origin, start]
    split
    · rfl
    · split <;> rfl
  rw [place, Path.components_eq, List.foldl_append, horigin]

theorem resolve_eq_ok : d.resolve p = .ok loc ↔
    refusal? p = none ∧ d.walk (d.start p) p.segments = .ok loc := by
  rw [resolve]
  cases refusal? p with
  | none => simp
  | some e => simp

/-- A path that can be followed leads to the place that its components name. -/
theorem resolve_eq_place (h : d.resolve p = .ok loc) : loc = d.place p.components := by
  rw [place_components, walk_eq_foldl (resolve_eq_ok.1 h).2, Path.steps]

theorem Grows.place_eq {d' : Disk} (h : Grows d d') (cs : List Component) :
    d'.place cs = d.place cs := by
  rw [place, h.current_eq, place]

theorem Grows.resolve {d' : Disk} (h : Grows d d') (hr : d.resolve p = .ok loc) :
    d'.resolve p = .ok loc := by
  have hstart : d'.start p = d.start p := by rw [start, h.current_eq, start]
  obtain ⟨hrefusal, hwalk⟩ := resolve_eq_ok.1 hr
  exact resolve_eq_ok.2 ⟨hrefusal, by rw [hstart]; exact h.walk hwalk⟩

/-! ## Files and directories by their paths -/

theorem resolve_of_lookup? {node : DiskNode} (h : d.lookup? p = some node) :
    d.resolve p = .ok (d.place p.components) ∧ d.node? (d.place p.components) = some node := by
  rw [lookup?] at h
  cases hr : d.resolve p with
  | error e =>
    rw [hr] at h
    cases h
  | ok loc =>
    simp only [hr] at h
    rw [← resolve_eq_place hr]
    exact ⟨rfl, h⟩

theorem isDir_iff : d.isDir p = true ↔
    d.resolve p = .ok (d.place p.components) ∧ d.node? (d.place p.components) = some .dir := by
  rw [isDir, decide_eq_true_eq]
  constructor
  · exact resolve_of_lookup?
  · rintro ⟨hr, hnode⟩
    rw [lookup?, hr]
    exact hnode

theorem resolve_of_isFile (h : d.isFile p = true) : d.resolve p = .ok (d.place p.components) := by
  rw [isFile] at h
  split at h
  · rename_i hlookup
    exact (resolve_of_lookup? hlookup).1
  · cases h

/-- A file reads the same under each of its spellings. -/
theorem readText_eq_of_components_eq (hp : d.isFile p = true) (hq : d.isFile q = true)
    (h : p.components = q.components) : d.readText p = d.readText q := by
  rw [readText, readText, resolve_of_isFile hp, resolve_of_isFile hq, h]

theorem walk_beginnings {segments : List Text} (h : d.walk loc segments = .ok loc')
    (hdir : d.node? loc' = some .dir) (n : Nat) :
    d.node? (((segments.filterMap Path.component?).take n).foldl enter loc) = some .dir := by
  induction segments generalizing loc n with
  | nil =>
    cases h
    rwa [List.filterMap_nil, List.take_nil]
  | cons segment segments ih =>
    obtain ⟨hloc, next, hnext, h⟩ := walk_cons_iff.1 h
    have hbeginnings := ih h
    rw [hnext.component?] at hbeginnings
    cases hc : Path.component? segment with
    | none =>
      rw [hc, Option.elim_none] at hbeginnings
      rw [List.filterMap_cons_none hc]
      exact hbeginnings n
    | some c =>
      rw [hc, Option.elim_some] at hbeginnings
      rw [List.filterMap_cons_some hc]
      cases n with
      | zero => exact hloc
      | succ n => exact hbeginnings n

theorem isDir_beginnings (h : d.isDir p = true) {n : Nat} (hn : 0 < n) :
    d.node? (d.place (p.components.take n)) = some .dir := by
  obtain ⟨hresolve, hdir⟩ := isDir_iff.1 h
  have hwalk := (resolve_eq_ok.1 hresolve).2
  have hbeginnings := walk_beginnings hwalk hdir
  obtain ⟨n, rfl⟩ := Nat.exists_eq_succ_of_ne_zero (Nat.ne_of_gt hn)
  rw [place, Path.components_eq, Path.origin]
  rw [start] at hbeginnings
  split
  · rename_i habsolute
    rw [if_pos habsolute] at hbeginnings
    exact hbeginnings n
  · rename_i habsolute
    rw [if_neg habsolute] at hbeginnings
    split
    · exact hbeginnings n
    · exact hbeginnings (n + 1)

end Disk
end CommentDocs
