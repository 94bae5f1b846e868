import CommentDocs.Format
import CommentDocs.Proofs.Builder.NormalForm
import CommentDocs.Proofs.Html.Markup
import CommentDocs.Proofs.Listing.Sorted

/-!
# CommentDocs.Proofs.Markdown.Anchors

The lines of Markdown documentation that links lead to. Descriptions may have any lines, but no
angle bracket of theirs stands without a backslash before it, and no label holds a line end, so no
line starts with an angle bracket (`Text.Sheltered`) except for the one at the head of each section
(`Markdown.section_eq`).
-/

namespace CommentDocs
namespace Text

/-- Before each opening angle bracket stands another character of its line. -/
def Sheltered (t : Text) : Prop := ∀ a b, t = a ++ '<' :: b → ∃ c ∈ a.getLast?, c ≠ '\n'

namespace Sheltered

variable {s t : Text}

theorem of_not_mem (h : '<' ∉ t) : Sheltered t := by
  rintro a b rfl
  simp at h

theorem of_line {c : Char} (hc : c ≠ '<') (hline : '\n' ∉ c :: t) : Sheltered (c :: t) := by
  intro a b h
  cases a with
  | nil => exact absurd (List.cons.inj h).1 hc
  | cons d a =>
    refine ⟨_, List.getLast?_eq_some_getLast (List.cons_ne_nil d a), ?_⟩
    intro hlast
    refine hline ?_
    rw [h, ← hlast]
    exact List.mem_append_left _ (List.getLast_mem _)

theorem append (hs : Sheltered s) (ht : Sheltered t) : Sheltered (s ++ t) := by
  intro a b h
  rcases List.append_eq_append_iff.1 h with ⟨a', rfl, ht'⟩ | ⟨c', hs', hc⟩
  · obtain ⟨c, hc, hne⟩ := ht a' b ht'
    exact ⟨c, List.mem_getLast?_append_of_mem_getLast? hc, hne⟩
  · cases c' with
    | nil =>
      rw [List.append_nil] at hs'
      subst hs'
      obtain ⟨c, hc, _⟩ := ht [] b hc.symm
      cases hc
    | cons d c' =>
      obtain ⟨rfl, rfl⟩ := List.cons.inj hc
      exact hs a c' hs'

theorem between {u : Text} (hs : '<' ∉ s) (ht : Sheltered t) (hu : '<' ∉ u) :
    Sheltered (s ++ t ++ u) :=
  ((of_not_mem hs).append ht).append (of_not_mem hu)

theorem flatMap {α : Type} {f : α → Text} (xs : List α) (h : ∀ x ∈ xs, Sheltered (f x)) :
    Sheltered (xs.flatMap f) :=
  flatMap_induction (of_not_mem (by simp)) (fun _ _ hs ht => hs.append ht) h

theorem intercalate {separator : Text} (hs : Sheltered separator) {ts : List Text}
    (h : ∀ t ∈ ts, Sheltered t) : Sheltered (separator.intercalate ts) :=
  intercalate_induction (of_not_mem (by simp)) (fun _ _ hs ht => hs.append ht) hs h

theorem unlines {ls : List Text} (h : ∀ l ∈ ls, Sheltered l) : Sheltered (unlines ls) :=
  flatMap ls fun l hl => (h l hl).append (of_not_mem (by decide))

theorem head?_ne (h : Sheltered t) : ∀ l ∈ lines t, l.head? ≠ some '<' := by
  have hfront : ∀ u v : Text, Sheltered (u ++ v) → u.head? ≠ some '<' := by
    intro u v hu hhead
    obtain ⟨b, rfl⟩ := List.head?_eq_some_iff.1 hhead
    obtain ⟨c, hc, _⟩ := hu [] (b ++ v) rfl
    cases hc
  induction t using line_induction with
  | last t ht =>
    rw [lines_of_not_mem ht]
    split
    · simp
    · rw [List.forall_mem_singleton]
      exact hfront t [] (by rwa [List.append_nil])
  | cut u v hu ih =>
    rw [lines_cut hu]
    refine List.forall_mem_cons.2 ⟨?_, ih ?_⟩
    · rcases eq_chomp_or u with he | he
      · rw [← he]
        exact hfront u _ h
      · rw [he, List.append_assoc] at h
        exact hfront _ _ h
    · -- A line end is no shelter, so the character before the bracket stands behind it.
      intro a b hv
      obtain ⟨c, hc, hne⟩ := h (u ++ '\n' :: a) b (by rw [hv]; simp)
      rw [List.getLast?_append_of_ne_nil u (List.cons_ne_nil _ a), List.getLast?_cons] at hc
      cases ha : a.getLast? with
      | none =>
        rw [ha] at hc
        exact absurd (Option.some.inj hc).symm hne
      | some d =>
        rw [ha] at hc
        have hdc : d = c := Option.some.inj hc
        exact ⟨d, rfl, hdc ▸ hne⟩

end Sheltered
end Text

/-! ## Labels and entities -/

theorem IsLabel.newline_not_mem {t : Text} (h : IsLabel t) : '\n' ∉ t :=
  Text.newline_not_mem_of_free h.not_blank

theorem Method.WellFormed.newline_not_mem_label {m : Method} (h : m.WellFormed) :
    '\n' ∉ m.label := by
  have hname : '\n' ∉ (if m.isConstructor then ("constructor" : Text) else m.name) := by
    split
    · decide
    · exact h.name.newline_not_mem
  have hparams : '\n' ∉ List.intercalate ", " (m.params.map Param.label) := by
    refine Text.intercalate_induction (P := fun t => '\n' ∉ t) (by simp) ?_ (by decide) ?_
    · intro s t hs ht
      rw [List.mem_append, not_or]
      exact ⟨hs, ht⟩
    · intro t ht
      obtain ⟨p, hp, rfl⟩ := List.mem_map.1 ht
      exact (h.params p hp).label.newline_not_mem
  have hopen : '\n' ∉ ("(" : Text) := by decide
  have hclose : '\n' ∉ (")" : Text) := by decide
  unfold Method.label
  simp only [List.mem_append, not_or]
  refine ⟨⟨⟨⟨hname, hopen⟩, hparams⟩, hclose⟩, ?_⟩
  split
  · simp
  · rename_i p hp
    have htype : '\n' ∉ returnType p := by
      unfold returnType
      split
      · decide
      · exact (h.returns p hp).label.newline_not_mem
    rw [List.mem_append, not_or]
    exact ⟨by decide, htype⟩

theorem Entity.mem_label_of_mem_displayName {c : Char} {e : Entity} (h : c ∈ e.displayName) :
    c ∈ e.label := by
  unfold Entity.displayName at h
  split at h
  · exact h
  · rename_i name suffix hcut
    rw [(Text.splitOnce_eq_some.1 hcut).1]
    exact List.mem_append_left _ h

namespace Entity.WellFormed

variable {e : Entity}

theorem newline_not_mem_displayName (h : e.WellFormed) : '\n' ∉ e.displayName :=
  fun hm => h.label.newline_not_mem (mem_label_of_mem_displayName hm)

theorem newline_not_mem_typeSuffix (h : e.WellFormed) :
    ∀ suffix ∈ e.typeSuffix?, '\n' ∉ suffix := by
  have hlabel := h.label.newline_not_mem
  unfold Entity.typeSuffix?
  split
  · simp
  · rename_i name suffix hcut
    rw [(Text.splitOnce_eq_some.1 hcut).1] at hlabel
    split
    · simp
    · rintro _ ⟨⟩
      exact fun hm => hlabel (List.mem_append_right _ (List.mem_cons_of_mem _ hm))

end Entity.WellFormed

theorem Namespace.WellFormed.of_mem_entities {ns : Namespace} (h : ns.WellFormed) {e : Entity}
    (he : e ∈ ns.entities) : e.WellFormed := by
  obtain ⟨key, hkey⟩ := Namespace.mem_entities.1 he
  exact h key e hkey

/-! ## Blocks -/

namespace Markdown

open Text (Sheltered)

theorem sheltered_escape (t : Text) : Sheltered (escape t) := by
  refine Sheltered.flatMap t fun c _ => ?_
  unfold escapeChar
  split
  · exact Sheltered.of_line (by decide) (by decide)
  · exact Sheltered.of_not_mem (by decide)
  · rename_i hopen _
    exact Sheltered.of_not_mem fun hm => hopen (List.mem_singleton.1 hm).symm

theorem sheltered_code {t : Text} (h : '\n' ∉ t) : Sheltered (code t) := by
  have hcode : code t = '`' :: (t ++ ['`']) := rfl
  rw [hcode]
  exact Sheltered.of_line (by decide) (by simp [h])

theorem sheltered_description (t : Text) : ∀ b ∈ description t, Sheltered b := by
  unfold description
  split
  · simp
  · exact List.forall_mem_cons.2
      ⟨sheltered_escape _, List.forall_mem_singleton.2 (.of_not_mem (by simp))⟩

theorem sheltered_item {p : Param} (h : p.WellFormed) : Sheltered (item p) := by
  have hlabel : Sheltered ("* " ++ code p.label) :=
    (Sheltered.of_not_mem (by decide)).append (sheltered_code h.label.newline_not_mem)
  unfold item
  split
  · exact hlabel.append (.of_not_mem (by simp))
  · exact hlabel.append ((Sheltered.of_not_mem (by decide)).append (sheltered_escape _))

theorem sheltered_member {m : Method} (h : m.WellFormed) : ∀ b ∈ member m, Sheltered b := by
  have hnil : Sheltered [] := .of_not_mem (by simp)
  have hparams : ∀ b ∈ params m.params, Sheltered b := by
    have hitems : ∀ b ∈ m.params.map item, Sheltered b := by
      intro b hb
      obtain ⟨p, hp, rfl⟩ := List.mem_map.1 hb
      exact sheltered_item (h.params p hp)
    unfold params
    split
    · simp
    · refine List.forall_mem_append.2 ⟨?_, List.forall_mem_singleton.2 hnil⟩
      exact List.forall_mem_cons.2 ⟨.of_not_mem (by decide), hitems⟩
  have hreturns : ∀ b ∈ returns m.returns, Sheltered b := by
    unfold returns
    split
    · simp
    · rename_i p hp
      have hitem := sheltered_item (h.returns p hp)
      exact List.forall_mem_cons.2 ⟨.of_not_mem (by decide),
        List.forall_mem_cons.2 ⟨hitem, List.forall_mem_singleton.2 hnil⟩⟩
  unfold member
  rw [List.forall_mem_append, List.forall_mem_append]
  exact ⟨⟨sheltered_description _, hparams⟩, hreturns⟩

theorem sheltered_constructor {m : Method} (h : m.WellFormed) :
    ∀ b ∈ constructor m, Sheltered b := by
  have hcode := sheltered_code h.newline_not_mem_label
  refine List.forall_mem_cons.2 ⟨?_, sheltered_member h⟩
  exact .between (by decide) hcode (by decide)

theorem sheltered_method {m : Method} (h : m.WellFormed) : ∀ b ∈ method m, Sheltered b := by
  have hcode := sheltered_code h.newline_not_mem_label
  refine List.forall_mem_cons.2 ⟨?_, sheltered_member h⟩
  exact .between (by decide) hcode (by decide)

theorem sheltered_supertypes {names : List Text} (h : ∀ t ∈ names, IsLabel t) :
    ∀ b ∈ supertypes names, Sheltered b := by
  have hcodes : ∀ b ∈ names.map code, Sheltered b := by
    intro b hb
    obtain ⟨t, ht, rfl⟩ := List.mem_map.1 hb
    exact sheltered_code (h t ht).newline_not_mem
  have hlist := Sheltered.intercalate (.of_not_mem (by decide : '<' ∉ (", " : Text))) hcodes
  unfold supertypes
  split
  · simp
  · rw [List.forall_mem_singleton]
    exact .between (by decide) hlist (by decide)

theorem sheltered_title {e : Entity} (h : e.WellFormed) : Sheltered (title e) := by
  unfold title
  split
  · rename_i suffix hsuffix
    have hname := sheltered_code h.newline_not_mem_displayName
    have hsuffix := sheltered_code (h.newline_not_mem_typeSuffix suffix hsuffix)
    exact (hname.append (.of_not_mem (by decide))).append hsuffix
  · exact sheltered_code h.label.newline_not_mem

/-! ## Sections -/

/-- The line at the head of a section that links lead to. -/
def anchorTag (e : Entity) : Text := "<a id=\"" ++ e.anchor ++ "\"></a>"

/-- The lines that set an anchor. -/
def anchorLines (t : Text) : List Text :=
  (Text.lines t).filter fun line => ("<a id=\"" : Text).isPrefixOf line

theorem anchorLines_append {s : Text} (h : Text.WholeLines s) (t : Text) :
    anchorLines (s ++ t) = anchorLines s ++ anchorLines t := by
  rw [anchorLines, Text.lines_append h, List.filter_append, anchorLines, anchorLines]

theorem anchorLines_of_sheltered {t : Text} (h : Sheltered t) : anchorLines t = [] := by
  refine List.filter_eq_nil_iff.2 fun line hline hanchor => ?_
  obtain ⟨rest, rfl⟩ := List.isPrefixOf_iff_prefix.1 hanchor
  exact h.head?_ne _ hline rfl

def blocksBelow (e : Entity) : List Text :=
  supertypes e.supertypes ++ description e.description ++ e.constructor.toList.flatMap constructor
    ++ e.methodList.flatMap method

def headline (e : Entity) : Text := "\n## " ++ e.kind.tag ++ " " ++ title e ++ "\n"

def below (e : Entity) : Text := headline e ++ '\n' :: Text.unlines (blocksBelow e)

theorem heading_eq (e : Entity) : heading e = anchorTag e ++ (['\n'] ++ headline e) := by
  have hcut : ("\"></a>\n\n## " : Text) = "\"></a>" ++ (['\n'] ++ "\n## ") := by decide
  have h : heading e = "<a id=\"" ++ e.anchor ++ ("\"></a>" ++ (['\n'] ++ "\n## ")) ++ e.kind.tag
      ++ " " ++ title e ++ "\n" :=
    congrArg (fun middle : Text => "<a id=\"" ++ e.anchor ++ middle ++ e.kind.tag ++ " " ++ title e
      ++ "\n") hcut
  rw [h]
  unfold anchorTag headline
  simp only [List.append_assoc]

theorem section_eq (e : Entity) : entity e ++ "\n" = anchorTag e ++ '\n' :: below e := by
  have hblocks : Text.unlines (blocks e) = heading e ++ '\n' :: Text.unlines (blocksBelow e) :=
    Text.unlines_cons (heading e) (blocksBelow e)
  have hsection : entity e ++ "\n" = Text.unlines (blocks e) :=
    Text.intercalate_newline (List.cons_ne_nil (heading e) (blocksBelow e))
  rw [hsection, hblocks, heading_eq]
  exact List.append_assoc (anchorTag e) ('\n' :: headline e) _

theorem sheltered_blocksBelow {e : Entity} (h : e.WellFormed) :
    ∀ b ∈ blocksBelow e, Sheltered b := by
  unfold blocksBelow
  simp only [List.forall_mem_append]
  refine ⟨⟨⟨sheltered_supertypes h.supertypes, sheltered_description _⟩, ?_⟩, ?_⟩
  · intro b hb
    obtain ⟨m, hm, hb⟩ := List.mem_flatMap.1 hb
    exact sheltered_constructor (h.members .constructor m (Option.mem_toList.1 hm)) b hb
  · intro b hb
    obtain ⟨m, hm, hb⟩ := List.mem_flatMap.1 hb
    obtain ⟨name, hm⟩ := Entity.mem_methodList.1 hm
    exact sheltered_method (h.members (.method name) m hm) b hb

theorem sheltered_below {e : Entity} (h : e.WellFormed) : Sheltered (below e) := by
  have hkind : '<' ∉ e.kind.tag := by cases e.kind <;> decide
  have hheading : Sheltered (headline e) :=
    ((((Sheltered.of_not_mem (by decide)).append (.of_not_mem hkind)).append
      (.of_not_mem (by decide))).append (sheltered_title h)).append (.of_not_mem (by decide))
  have hblocks := Sheltered.unlines (sheltered_blocksBelow h)
  exact hheading.append ((Sheltered.of_not_mem (by decide : '<' ∉ ("\n" : Text))).append hblocks)

theorem newline_not_mem_anchor (e : Entity) : '\n' ∉ e.anchor :=
  fun hm => absurd (Html.isAnchor_anchor e '\n' hm) (by decide)

theorem isLine_anchorTag (e : Entity) : Text.IsLine (anchorTag e) := by
  have hclose : Text.IsLine "\"></a>" := ⟨by decide, by decide⟩
  have hopen : '\n' ∉ "<a id=\"" ++ e.anchor := by
    rw [List.mem_append, not_or]
    exact ⟨by decide, newline_not_mem_anchor e⟩
  exact hclose.behind hopen (by decide)

theorem anchorLines_section {e : Entity} (h : e.WellFormed) :
    anchorLines (entity e ++ "\n") = [anchorTag e] := by
  have hlines : Text.lines (entity e ++ "\n") = anchorTag e :: Text.lines (below e) := by
    rw [section_eq]
    exact Text.lines_append_newline (isLine_anchorTag e) (below e)
  have hanchor : ("<a id=\"" : Text).isPrefixOf (anchorTag e) = true :=
    List.isPrefixOf_iff_prefix.2 ((List.prefix_append _ _).trans (List.prefix_append _ _))
  rw [anchorLines, hlines, List.filter_cons_of_pos hanchor]
  exact congrArg (anchorTag e :: ·) (anchorLines_of_sheltered (sheltered_below h))

theorem anchorLines_sections {es : List Entity} (h : ∀ e ∈ es, e.WellFormed) :
    anchorLines (Text.unlines (es.map entity)) = es.map anchorTag := by
  induction es with
  | nil => rfl
  | cons e es ih =>
    obtain ⟨he, hes⟩ := List.forall_mem_cons.1 h
    have hcut : Text.unlines ((e :: es).map entity) =
        entity e ++ "\n" ++ Text.unlines (es.map entity) := rfl
    have hwhole : Text.WholeLines (entity e ++ "\n") := .inr List.getLast?_concat
    rw [hcut, anchorLines_append hwhole, anchorLines_section he, ih hes]
    rfl

/-! ## The index -/

theorem isLine_indexLine {e : Entity} (h : e.WellFormed) : Text.IsLine e.indexLine := by
  have hclose : Text.IsLine ")" := ⟨by decide, by decide⟩
  have hopen : '\n' ∉ "* [" ++ e.label ++ "](#" ++ e.anchor := by
    rw [List.mem_append, List.mem_append, List.mem_append, not_or, not_or, not_or]
    exact ⟨⟨⟨by decide, h.label.newline_not_mem⟩, by decide⟩, newline_not_mem_anchor e⟩
  exact hclose.behind hopen (by decide)

theorem lines_index {ns : Namespace} (h : ns.WellFormed) :
    Text.lines (index ns) = ns.entities.map Entity.indexLine := by
  refine Text.lines_unlines fun line hline => ?_
  obtain ⟨e, he, rfl⟩ := List.mem_map.1 hline
  exact isLine_indexLine (h.of_mem_entities he)

theorem sheltered_index {ns : Namespace} (h : ns.WellFormed) : Sheltered (index ns) := by
  refine Sheltered.unlines fun line hline => ?_
  obtain ⟨e, he, rfl⟩ := List.mem_map.1 hline
  have hnewline := (isLine_indexLine (h.of_mem_entities he)).1
  exact Sheltered.of_line (by decide) hnewline

/-- The index at the head of the documentation sets no anchors. -/
theorem anchorLines_everything {ns : Namespace} (h : ns.WellFormed) :
    anchorLines (everything ns) = ns.entities.map anchorTag := by
  have hsections : anchorLines (Text.unlines (ns.entities.map entity)) =
      ns.entities.map anchorTag :=
    anchorLines_sections fun _ he => h.of_mem_entities he
  have hindex := sheltered_index h
  unfold everything everythingWith
  split
  · exact hsections
  · have hhead : Sheltered ("## Index\n\n" ++ index ns ++ "\n") :=
      .between (by decide) hindex (by decide)
    have hwhole : Text.WholeLines ("## Index\n\n" ++ index ns ++ "\n") :=
      .inr List.getLast?_concat
    rw [anchorLines_append hwhole, anchorLines_of_sheltered hhead, hsections]
    rfl

/-- The index has a line for each entity, and the lines of the documentation that set an anchor are
those of the same entities in the same order, whatever is said in the source texts. -/
theorem index_targets (sources : List Text) :
    let ns := (Builder.empty.readAll sources).1.result
    (Text.lines (Format.markdown.renderIndex ns)).length = ns.size ∧
      Text.lines (Format.markdown.renderIndex ns) =
        ns.entities.map (fun e => (("* [" : Text) ++ e.label ++ "](#" ++ e.anchor ++ ")")) ∧
      anchorLines (Format.markdown.render ns) =
        ns.entities.map (fun e => (("<a id=\"" : Text) ++ e.anchor ++ "\"></a>")) := by
  intro ns
  have hns : ns.WellFormed := Builder.wellFormed_readAll Builder.wellFormed_empty sources
  have hindex := lines_index hns
  refine ⟨?_, hindex, anchorLines_everything hns⟩
  have hlength := congrArg List.length hindex
  rw [List.length_map, Namespace.length_entities] at hlength
  exact hlength

/-- A description that looks like an anchor. -/
example :
    anchorLines (Format.markdown.render (Builder.empty.readAll
      ["/**\n * @class A\n * <a id=\"class-b\"></a>\n */"]).1.result) =
        ["<a id=\"class-a\"></a>"] := by decide

end Markdown
end CommentDocs
