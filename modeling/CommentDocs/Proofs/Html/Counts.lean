import CommentDocs.Format
import CommentDocs.Proofs.Html.Links
import CommentDocs.Proofs.Listing.Sorted
import Mathlib.Algebra.BigOperators.Group.List.Basic
import Mathlib.Tactic.Ring

/-!
# CommentDocs.Proofs.Html.Counts

How often a tag occurs in HTML documentation. Whatever is documented is escaped, and the passes put
nothing in that is counted (`IsCountable`), so each node shows a cue as often as the texts around
its children do, in which only labels and descriptions vary. These numbers are computed
(`Tally.of`), and a `Tally` is added up along the tree (`occurrences_visit`). For the tags that open
the parts of the documentation the sums say that each part is shown exactly once
(`parts_shown_once`).
-/

namespace CommentDocs

namespace Text

/-- The number of places at which `p` occurs. -/
def occurrences (p t : Text) : Nat := t.tails.countP p.isPrefixOf

theorem length_behind (p t : Text) : (behind p t).length = occurrences p t := by
  rw [behind, List.length_filterMap_eq_countP, occurrences]
  refine List.countP_congr fun s _ => ?_
  rw [Option.isSome_iff_exists, List.isPrefixOf_iff_prefix]
  constructor
  · rintro ⟨rest, hrest⟩
    obtain ⟨q, rfl, hq⟩ := List.dropPrefix?_eq_some_iff.1 hrest
    cases eq_of_beq hq
    exact List.prefix_append p rest
  · rintro ⟨rest, rfl⟩
    exact ⟨rest, List.dropPrefix?_eq_some_iff.2 ⟨p, rfl, beq_self_eq_true p⟩⟩

end Text

def Entity.members (e : Entity) : List Method := e.constructor.toList ++ e.methods.values

def Namespace.members (ns : Namespace) : List Method := ns.table.values.flatMap Entity.members

namespace Html

/-! ## Cues that can be counted -/

/-- A cue that occurs in no shorthand and in nothing that is put for one, and that does not reach
from the start of an article into its anchor. -/
structure IsCountable (cue : Text) : Prop where
  isCue : IsCue cue
  symbols : ∀ r ∈ symbols, Text.occurrences cue r.1 = 0 ∧ Text.occurrences cue r.2 = 0
  article : cue = "<article id=\"" ∨
    Text.occurrences cue "<article id=\"" = 0 ∧ ¬"<article id=\"" <+: cue

instance (cue : Text) : Decidable (IsCountable cue) :=
  decidable_of_iff (IsCue cue ∧
    (∀ r ∈ symbols, Text.occurrences cue r.1 = 0 ∧ Text.occurrences cue r.2 = 0) ∧
    (cue = "<article id=\"" ∨
      Text.occurrences cue "<article id=\"" = 0 ∧ ¬"<article id=\"" <+: cue))
    ⟨fun ⟨h1, h2, h3⟩ => ⟨h1, h2, h3⟩, fun h => ⟨h.isCue, h.symbols, h.article⟩⟩

theorem Probe.length_readings {β : Type} (g : Probe β) (t : Text) :
    (g.readings t).length = Text.occurrences g.cue t := by
  rw [Probe.readings, List.length_map, Text.length_behind]

namespace IsCountable

variable {cue : Text} (h : IsCountable cue)

def probe : Probe Unit where
  cue
  read := fun _ => ()
  isCue := h.isCue
  read_append := fun _ _ _ => rfl

theorem length_probe (t : Text) : (h.probe.readings t).length = Text.occurrences cue t :=
  h.probe.length_readings t

theorem passesSymbols : h.probe.PassesSymbols := by
  intro r hr
  obtain ⟨hold, hnew⟩ := h.symbols r hr
  rw [← h.length_probe] at hold hnew
  exact ⟨List.length_eq_zero_iff.1 hold, List.length_eq_zero_iff.1 hnew⟩

end IsCountable

/-! ## Tallies -/

/-- How often something is shown by the root, and by every entity, every list of supertypes, every
member, every parameter and every return value. -/
structure Tally where
  root : Nat := 0
  entity : Nat := 0
  supertypes : Nat := 0
  member : Nat := 0
  param : Nat := 0
  returns : Nat := 0
deriving DecidableEq

namespace Tally

def ofTexts (cue : Text) (ts : List Text) : Nat := (ts.map (Text.occurrences cue)).sum

def of (cue : Text) : Tally where
  root := ofTexts cue ["<div class=\"everything\">\n", "\n</div>\n"]
  entity := ofTexts cue
    ["<article id=\"", " <h1> ", " </h1> ", " <p> ", " </p> <p> ", " </p> </article>"]
  supertypes := ofTexts cue ["<div class=\"extends\"> extends ", " </div>"]
  member := ofTexts cue
    ["<section> <h2> ", " </h2> ", " <div class=\"method_desc\"> ", " </div> </section>"]
  param := ofTexts cue
    ["<div class=\"param\"> <div class=\"param_type\"> &larr; ",
      " </div> <div class=\"param_desc\"> ", " </div> </div>"]
  returns := ofTexts cue
    ["<div class=\"return\"> <div class=\"return_type\"> &rarr; ",
      " </div> <div class=\"return_desc\"> ", " </div> </div>"]

variable (t : Tally)

/-- What a node shows, its children apart. -/
def own : Node → Nat
  | .everything _ => t.root
  | .entity e => t.entity + if e.supertypes = [] then 0 else t.supertypes
  | .constructor _ | .method _ => t.member
  | .param _ => t.param
  | .returns _ => t.returns

@[simp] theorem own_entity (e : Entity) :
    t.own (.entity e) = t.entity + if e.supertypes = [] then 0 else t.supertypes := rfl

@[simp] theorem own_constructor (m : Method) : t.own (.constructor m) = t.member := rfl

@[simp] theorem own_method (m : Method) : t.own (.method m) = t.member := rfl

@[simp] theorem own_param (p : Param) : t.own (.param p) = t.param := rfl

@[simp] theorem own_returns (p : Param) : t.own (.returns p) = t.returns := rfl

def ofMember (m : Method) : Nat :=
  t.member + (t.param * m.params.length + t.returns * m.returns.toList.length)

def ofEntity (e : Entity) : Nat := t.own (.entity e) + (e.members.map t.ofMember).sum

def ofNamespace (ns : Namespace) : Nat := t.root + (ns.table.values.map t.ofEntity).sum

/-- What a node shows with all nodes below it. -/
def ofNode : Node → Nat
  | .everything ns => t.ofNamespace ns
  | .entity e => t.ofEntity e
  | .constructor m | .method m => t.ofMember m
  | .param _ => t.param
  | .returns _ => t.returns

/-- A node shows what it shows itself and what its children show: a listing has each child once. -/
theorem ofNode_eq (n : Node) : t.ofNode n = t.own n + (n.children.map t.ofNode).sum := by
  have hmember : ∀ m : Method, t.ofMember m =
      t.member + ((Node.method m).children.map t.ofNode).sum := by
    intro m
    simp [Node.children, ofMember, ofNode, Function.comp_def, Nat.mul_comm]
  cases n with
  | everything ns =>
    have hperm := ((Sorting.sort_perm (Entity.order Text.lowercase) ns.table.values).map
      t.ofEntity).sum_eq
    have hchildren : (Node.everything ns).children.map t.ofNode = ns.entities.map t.ofEntity := by
      simp [Node.children, ofNode, Function.comp_def]
    rw [hchildren, ofNode, ofNamespace, ← hperm]
    rfl
  | entity e =>
    have hperm := ((Sorting.sort_perm (Entity.methodOrder Text.lowercase) e.methods.values).map
      t.ofMember).sum_eq
    have hchildren : (Node.entity e).children.map t.ofNode =
        (e.constructor.toList ++ e.methodList).map t.ofMember := by
      simp [Node.children, ofNode, Function.comp_def]
    rw [hchildren, ofNode, ofEntity, Entity.members, List.map_append, List.map_append,
      List.sum_append, List.sum_append, ← hperm]
    rfl
  | constructor m => exact hmember m
  | method m => exact hmember m
  | param p => rfl
  | returns p => rfl

theorem sum_ofMember (ms : List Method) :
    (ms.map t.ofMember).sum =
      t.member * ms.length + t.param * (ms.map fun m => m.params.length).sum +
        t.returns * ms.countP fun m => m.returns.isSome := by
  induction ms with
  | nil => simp
  | cons m ms ih =>
    have hreturns : (m.returns.toList.length : Nat) = if m.returns.isSome then 1 else 0 := by
      cases m.returns <;> rfl
    rw [List.map_cons, List.sum_cons, ih, ofMember, List.length_cons, List.map_cons, List.sum_cons,
      List.countP_cons, hreturns]
    ring

theorem sum_ofEntity (es : List Entity) :
    (es.map t.ofEntity).sum =
      t.entity * es.length + t.supertypes * (es.countP fun e => e.supertypes ≠ []) +
        ((es.flatMap Entity.members).map t.ofMember).sum := by
  induction es with
  | nil => simp
  | cons e es ih =>
    have hown : t.own (.entity e) =
        t.entity + t.supertypes * if e.supertypes ≠ [] then 1 else 0 := by
      by_cases he : e.supertypes = []
      · simp [he]
      · simp [he]
    rw [List.map_cons, List.sum_cons, ih, ofEntity, hown, List.length_cons, List.countP_cons,
      List.flatMap_cons, List.map_append, List.sum_append]
    simp only [decide_eq_true_eq]
    ring

theorem ofNamespace_eq (ns : Namespace) :
    t.ofNamespace ns =
      t.root + (t.entity * ns.size +
        t.supertypes * (ns.table.values.countP fun e => e.supertypes ≠ []) +
        (t.member * ns.members.length + t.param * (ns.members.map fun m => m.params.length).sum +
          t.returns * ns.members.countP fun m => m.returns.isSome)) := by
  rw [ofNamespace, sum_ofEntity, length_values, ← Namespace.members, sum_ofMember]
  rfl

end Tally

/-! ## Nodes -/

namespace IsCountable

variable {cue : Text} (h : IsCountable cue)

include h

theorem occurrences_articleTag (e : Entity) :
    Text.occurrences cue (articleTag e) = Text.occurrences cue "<article id=\"" := by
  rcases h.article with rfl | ⟨hnone, hlonger⟩
  · have hone : Text.occurrences "<article id=\"" "<article id=\"" = 1 := by decide
    have hread := congrArg List.length (articleProbe_article e)
    rw [articleProbe.length_readings] at hread
    rw [hone]
    exact hread
  · have hshorter : ¬cue <+: "<article id=\"" := fun hp =>
      List.countP_eq_zero.1 hnone _ ((List.mem_tails _ _).2 List.suffix_rfl)
        (List.isPrefixOf_iff_prefix.2 hp)
    have hread := h.probe.readings_of_other (articleTag_isTag e) (prefix_articleTag e)
      ⟨hshorter, hlonger⟩
    rw [hnone, ← h.length_probe, hread]
    rfl

theorem occurrences_supertypes (e : Entity) :
    Text.occurrences cue (supertypes e) =
      if e.supertypes = [] then 0 else (Tally.of cue).supertypes := by
  have hread := congrArg List.length (h.probe.readings_supertypes e)
  rw [h.length_probe] at hread
  rw [hread]
  split
  · rfl
  · rw [List.length_append, h.length_probe, h.length_probe]
    rfl

theorem occurrences_divisions {n : Node} {start middle : Text} (hstart : reads [] start)
    (hmiddle : reads [] middle) (p : Param)
    (hopening : opening n =
      start ++ escape p.label ++ middle ++ escape p.description ++ " </div> </div>")
    (hclosing : closing n = []) :
    Text.occurrences cue (opening n) + Text.occurrences cue (closing n) =
      Tally.ofTexts cue [start, middle, " </div> </div>"] := by
  have hopens := congrArg List.length (h.probe.readings_divisions hstart hmiddle p)
  have hcloses := congrArg List.length h.probe.readings_nil
  rw [← hopening] at hopens
  rw [← hclosing] at hcloses
  simp only [List.length_append, List.length_nil, h.length_probe] at hopens hcloses
  rw [hopens, hcloses, Nat.add_assoc, Nat.add_assoc]
  rfl

theorem occurrences_member {n : Node} (heading : Text) (m : Method)
    (hopening : opening n = "<section> <h2> " ++ escape heading ++ " </h2> ")
    (hclosing : closing n =
      " <div class=\"method_desc\"> " ++ escape m.description ++ " </div> </section>") :
    Text.occurrences cue (opening n) + Text.occurrences cue (closing n) =
      (Tally.of cue).member := by
  have hopens := congrArg List.length
    (h.probe.readings_around_escape (.of_reads reads_member.1) heading " </h2> ")
  have hcloses := congrArg List.length (h.probe.readings_closing_member m)
  rw [← hopening] at hopens
  rw [← hclosing] at hcloses
  simp only [List.length_append, h.length_probe] at hopens hcloses
  rw [hopens, hcloses, Nat.add_assoc]
  rfl

theorem occurrences_own (n : Node) :
    Text.occurrences cue (opening n) + Text.occurrences cue (closing n) =
      (Tally.of cue).own n := by
  cases n with
  | everything ns => rfl
  | entity e =>
    have hread := congrArg List.length (h.probe.readings_opening_entity e)
    simp only [List.length_append, h.length_probe] at hread
    have htag : Text.occurrences cue
        ("<article id=\"" ++ e.anchor ++ "\" class=\"" ++ e.kind.tag ++ "\">") =
          Text.occurrences cue "<article id=\"" := h.occurrences_articleTag e
    have hclosing : closing (.entity e) = " </p> </article>" := rfl
    have hentity : (Tally.of cue).entity = Tally.ofTexts cue
      ["<article id=\"", " <h1> ", " </h1> ", " <p> ", " </p> <p> ", " </p> </article>"] := rfl
    rw [hread, htag, hclosing, h.occurrences_supertypes, Tally.own_entity, hentity]
    simp only [Tally.ofTexts, List.map_cons, List.map_nil, List.sum_cons, List.sum_nil]
    omega
  | constructor m =>
    have hheading : ("Constructor" : Text) = escape "Constructor" := by decide
    have hopening : opening (.constructor m) =
        "<section> <h2> " ++ escape "Constructor" ++ " </h2> " :=
      congrArg (fun heading : Text => "<section> <h2> " ++ heading ++ " </h2> ") hheading
    exact (h.occurrences_member "Constructor" m hopening rfl).trans
      (Tally.own_constructor (Tally.of cue) m).symm
  | method m =>
    exact (h.occurrences_member m.label m rfl rfl).trans (Tally.own_method (Tally.of cue) m).symm
  | param p =>
    exact (h.occurrences_divisions reads_param.1 reads_param.2 p rfl rfl).trans
      (Tally.own_param (Tally.of cue) p).symm
  | returns p =>
    exact (h.occurrences_divisions reads_returns.1 reads_returns.2 p rfl rfl).trans
      (Tally.own_returns (Tally.of cue) p).symm

/-- Documentation shows a cue as often as its nodes do. -/
theorem occurrences_visit (n : Node) :
    Text.occurrences cue (visit n) = (Tally.of cue).ofNode n := by
  induction n using Node.tree_induction with
  | step n ih =>
    have hread := congrArg List.length (h.probe.readings_visit h.passesSymbols n)
    simp only [List.length_append, List.length_flatMap, h.length_probe] at hread
    rw [Tally.ofNode_eq, ← h.occurrences_own, hread, List.map_congr_left ih]
    omega

theorem occurrences_render {t : Tally} (ht : Tally.of cue = t) (ns : Namespace) :
    Text.occurrences cue (Format.html.render ns) = t.ofNamespace ns := by
  rw [← ht]
  exact h.occurrences_visit (.everything ns)

end IsCountable

/-! ## Parts of the documentation -/

/-- The documentation shows every entity, every constructor and method, every parameter, every
return value and every list of supertypes exactly once, whatever is said in any of them. -/
theorem parts_shown_once (ns : Namespace) :
    let text := Format.html.render ns
    Text.occurrences "<article id=\"" text = ns.size ∧
      Text.occurrences "<section>" text = ns.members.length ∧
      Text.occurrences "<div class=\"param\">" text =
        (ns.members.map fun m => m.params.length).sum ∧
      Text.occurrences "<div class=\"return\">" text =
        (ns.members.countP fun m => m.returns.isSome) ∧
      Text.occurrences "<div class=\"extends\">" text =
        (ns.table.values.countP fun e => e.supertypes ≠ []) := by
  have harticle : IsCountable "<article id=\"" := by decide
  have hsection : IsCountable "<section>" := by decide
  have hparam : IsCountable "<div class=\"param\">" := by decide
  have hreturns : IsCountable "<div class=\"return\">" := by decide
  have hextends : IsCountable "<div class=\"extends\">" := by decide
  refine ⟨?_, ?_, ?_, ?_, ?_⟩
  · rw [harticle.occurrences_render (t := { entity := 1 }) (by decide)]
    simp [Tally.ofNamespace_eq]
  · rw [hsection.occurrences_render (t := { member := 1 }) (by decide)]
    simp [Tally.ofNamespace_eq]
  · rw [hparam.occurrences_render (t := { param := 1 }) (by decide)]
    simp [Tally.ofNamespace_eq]
  · rw [hreturns.occurrences_render (t := { returns := 1 }) (by decide)]
    simp [Tally.ofNamespace_eq]
  · rw [hextends.occurrences_render (t := { supertypes := 1 }) (by decide)]
    simp [Tally.ofNamespace_eq]

end Html
end CommentDocs
