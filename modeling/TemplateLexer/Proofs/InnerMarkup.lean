import TemplateLexer.Content.Inner
import TemplateLexer.Proofs.Namespaced
import TemplateLexer.Proofs.PlainNodes
import TemplateLexer.Proofs.ReadNames
/-!
The markup inside an element is its content as it stands in the document. In the written form of the
element the first closing bracket ends its own tag and the last end mark begins its end tag, whatever
brackets and marks sections, comments and instructions inside it hold.
-/

set_option autoImplicit false

namespace TemplateLexer

open Markup

namespace Content

section Marks

variable {cs front middle back : List Char} {i : Nat}

theorem insideStart_append (hfront : '>' ∉ front) (back : List Char) :
    insideStart (front ++ '>' :: back) = front.length + 1 := by
  have hnone : front.findIdx? (· == '>') = none := by
    rw [List.findIdx?_eq_none_iff]
    intro c hc
    rw [beq_eq_false_iff_ne]
    rintro rfl
    exact hfront hc
  rw [insideStart, List.findIdx?_append, hnone, List.findIdx?_cons]
  simp

theorem insideStop?_eq_none (h : '<' ∉ cs) : insideStop? cs = none := by
  induction cs with
  | nil => rfl
  | cons c cs ih =>
    rw [List.mem_cons, not_or] at h
    have hmark : ¬endMark.isPrefixOf (c :: cs) = true := by
      simp [endMark, List.isPrefixOf, h.1]
    rw [insideStop?, ih h.2]
    exact if_neg hmark

theorem insideStop?_append (front : List Char) (h : insideStop? back = some i) :
    insideStop? (front ++ back) = some (front.length + i) := by
  induction front with
  | nil => simpa using h
  | cons c front ih => rw [List.cons_append, insideStop?, ih, List.length_cons, Nat.add_right_comm]

theorem insideStop?_endMark (hback : '<' ∉ back) : insideStop? (endMark ++ back) = some 0 := by
  have hslash : insideStop? ('/' :: back) = none :=
    insideStop?_eq_none (by simpa using hback)
  have hcons : endMark ++ back = '<' :: '/' :: back := rfl
  rw [hcons, insideStop?, hslash]
  rfl

/-- A text that is cut behind what opens it and in front of what closes it. -/
structure IsCut (cs front middle back : List Char) : Prop where
  written : cs = front ++ middle ++ back
  start : insideStart cs = front.length
  stop : insideStop? cs = some (front.length + middle.length)

theorem IsCut.inside_eq (h : IsCut cs front middle back) : inside cs = middle := by
  rw [inside, h.stop, h.start]
  simp only
  rw [h.written, ← List.length_append, List.take_left, List.drop_left]

end Marks

section Tags

variable {t : Tag} {nodes : List Node}

/-- A tag without attributes in whose written form no bracket stands but the one that opens it. -/
structure IsBare (t : Tag) : Prop where
  nonempty : t.name.written ≠ ""
  name : t.name.written.toList.all inName = true
  declarations : ∀ d ∈ t.declarations, d.IsPlain
  attributes : t.attributes = []

theorem IsBare.exists_print (h : IsBare t) : ∃ c cs, t.print = '<' :: c :: cs
    ∧ c ≠ '/' ∧ '<' ∉ c :: cs ∧ '>' ∉ c :: cs := by
  have hbracket : ∀ b, b = '<' ∨ b = '>' →
      b ∉ t.name.written.toList ++ t.declarations.flatMap Declaration.print := by
    intro b hb hmem
    rcases List.mem_append.1 hmem with hmem | hmem
    · exact bracket_notMem_name hb h.name hmem
    · obtain ⟨d, hd, hmem⟩ := List.mem_flatMap.1 hmem
      exact bracket_notMem_print hb (h.declarations d hd) hmem
  have hprint : t.print
      = '<' :: (t.name.written.toList ++ t.declarations.flatMap Declaration.print) := by
    rw [Tag.print, h.attributes]
    simp
  have hlt := hbracket '<' (.inl rfl)
  have hgt := hbracket '>' (.inr rfl)
  cases hname : t.name.written.toList with
  | nil => exact absurd hname (by simpa using h.nonempty)
  | cons c cs =>
    have hin : inName c = true := List.all_eq_true.1 h.name c (by simp [hname])
    rw [hname, List.cons_append] at hprint hlt hgt
    refine ⟨c, _, hprint, ?_, hlt, hgt⟩
    rintro rfl
    exact absurd hin (by decide)

/-- An element with content is cut between its own tags. -/
theorem IsBare.isCut (h : IsBare t) (hnodes : nodes ≠ []) :
    IsCut (Node.element t nodes).print (t.print ++ ['>']) (nodes.flatMap Node.print)
      (endMark ++ (t.name.written.toList ++ ['>'])) := by
  obtain ⟨c, cs, hprint, -, -, hgt⟩ := h.exists_print
  have hwritten : (Node.element t nodes).print = (t.print ++ ['>']) ++ nodes.flatMap Node.print
      ++ (endMark ++ (t.name.written.toList ++ ['>'])) := by
    have hempty : nodes.isEmpty = false := by simpa using hnodes
    rw [Node.print, hempty, if_neg Bool.false_ne_true, printAll_eq_flatMap]
    simp [endMark]
  have hback : '<' ∉ t.name.written.toList ++ ['>'] := by
    have hname := bracket_notMem_name (.inl rfl) h.name
    simpa using hname
  refine ⟨hwritten, ?_, ?_⟩
  · have hopening : '>' ∉ t.print := by simpa [hprint] using hgt
    rw [hwritten, List.append_assoc, List.append_assoc, List.singleton_append,
      insideStart_append hopening, List.length_append, List.length_singleton]
  · rw [hwritten, insideStop?_append _ (insideStop?_endMark hback), List.length_append]
    rfl

/-- An empty tag has no end mark. -/
theorem IsBare.insideStop?_empty (h : IsBare t) :
    insideStop? (Node.element t []).print = none := by
  obtain ⟨c, cs, hprint, hc, hlt, -⟩ := h.exists_print
  have hwritten : (Node.element t []).print = '<' :: c :: (cs ++ ['/', '>']) := by
    rw [Node.print, List.isEmpty_nil, if_pos rfl, hprint]
    rfl
  have hmark : ¬endMark.isPrefixOf ('<' :: c :: (cs ++ ['/', '>'])) = true := by
    simp [endMark, List.isPrefixOf, hc.symm]
  have hrest : insideStop? (c :: (cs ++ ['/', '>'])) = none :=
    insideStop?_eq_none (by simpa using hlt)
  rw [hwritten, insideStop?, hrest]
  exact if_neg hmark

/-- Whatever is inside a bare tag comes out of the cut. -/
theorem IsBare.inside_eq (h : IsBare t) (nodes : List Node) :
    inside (Node.element t nodes).print = nodes.flatMap Node.print := by
  by_cases hnodes : nodes = []
  · rw [hnodes, inside, h.insideStop?_empty]
    rfl
  · exact (h.isCut hnodes).inside_eq

end Tags

end Content

namespace Markup

mutual

def Node.IsFilled : Node → Prop
  | .element _ children => AreFilled children
  | .text s => s ≠ ""
  | _ => True

def AreFilled : List Node → Prop
  | [] => True
  | n :: rest => n.IsFilled ∧ AreFilled rest

end

section Trees

variable {n : Node} {nodes : List Node}

end Trees

namespace Reading

theorem AreFilled.addCharacters {nodes : List Node} (h : AreFilled nodes) (s : String) :
    AreFilled (addCharacters s nodes) := by
  rw [Reading.addCharacters.eq_def]
  split
  · rename_i t rest
    have ht : t ≠ "" := h.1
    exact ⟨by simp [Node.IsFilled, ht], h.2⟩
  · split
    · exact h
    · rename_i hs
      exact ⟨by simpa [Node.IsFilled] using hs, h⟩

theorem returns_tagName_nonempty : tagName.Returns fun n => n.written ≠ "" := by
  have hname : name.Returns fun n => n ≠ "" := by
    refine returns_name_of fun cs front after h => ?_
    cases cs with
    | nil => cases h
    | cons c cs =>
      rw [name?] at h
      split at h
      · cases h
        simp
      · cases h
  exact (returns_tagName_of hname).mono fun _ h => h.1

theorem returns_openingTag_nonempty (above : List Tag) :
    (openingTag above).Returns fun t => t.2.name.written ≠ "" := by
  refine returns_bind fun _ => returns_bind_of returns_tagName_nonempty fun n hn => ?_
  refine returns_bind fun _ => returns_bind fun cs => returns_bind fun parts => ?_
  refine returns_bind fun given => returns_bind fun named => ?_
  refine returns_bind fun _ => returns_bind fun _ => ?_
  refine returns_bind_of (returns_resolve _ _ _) fun m hm => ?_
  refine returns_bind fun _ => returns_bind fun s => returns_pure ?_
  rw [hm.written]
  exact hn

end Reading

end Markup

section Copies

variable {d : Declaration} {root : Element} {q : Place}

theorem isPlain_of_mem_bindings (hplain : root.node.IsAllPlain) (hq : q ∈ root.places)
    (hd : d ∈ bindings q.above) : d.IsPlain := by
  obtain ⟨t, ht, hd⟩ := exists_mem_of_mem_bindings hd
  obtain ⟨r, hr, rfl⟩ := exists_place_of_mem_tags hq (List.mem_cons_of_mem _ ht)
  exact (Element.isAllPlain_of_mem_places hplain r hr).1 d hd

theorem isPlain_of_mem_bindingsOf (hplain : root.node.IsAllPlain) (hq : q ∈ root.places)
    {used : List (Option String)} (hd : d ∈ bindingsOf used q.above) : d.IsPlain := by
  obtain ⟨name, -, hbinding⟩ := List.mem_filterMap.1 hd
  exact isPlain_of_mem_bindings hplain hq (List.mem_of_find?_eq_some hbinding)

/-- A copy of what became of an element has plain declarations, if none were added to it. -/
theorem isPlain_of_mem_detached (hplain : root.node.IsAllPlain) (hq : q ∈ root.places)
    {e : Element} (hown : ∀ d ∈ e.tag.declarations, d ∈ q.tag.declarations) :
    ∀ d ∈ (e.detached q.above).tag.declarations, d.IsPlain := by
  intro d hd
  rcases mem_extend hd with hd | hd
  · exact (Element.isAllPlain_of_mem_places hplain q hq).1 d (hown d hd)
  · exact isPlain_of_mem_bindingsOf hplain hq hd

theorem stripped_tag (uris : List String) (above : List Tag) (e : Element) :
    (Content.stripped uris above e).tag.name = e.tag.name
    ∧ ∀ d ∈ (Content.stripped uris above e).tag.declarations, d ∈ e.tag.declarations := by
  have hnode := node_stripped uris above e
  rw [Element.node, Element.node, withoutUnused] at hnode
  injection hnode with htag _
  rw [htag]
  exact ⟨rfl, fun d hd => List.mem_of_mem_filter hd⟩

theorem detached_nil (e : Element) : e.detached [] = e := by
  have hnone : ∀ used, bindingsOf used [] = [] := fun used =>
    List.filterMap_eq_nil_iff.2 fun _ _ => rfl
  rw [Element.detached, hnone]
  rfl

end Copies

namespace Source

variable {source : Source} {file : Option String} {d : Markup.Document} {q : Place}

theorem name_nonempty_of_load (hload : source.load file = .ok d) (hq : q ∈ d.root.places) :
    q.tag.name.written ≠ "" := by
  obtain ⟨judge, encoding, cs, s, hdocument⟩ := exists_document_of_load hload
  have hroot := (Reading.lasts_allFollow fun _ t => t.name.written ≠ "").returns_document
    Reading.returns_openingTag_nonempty judge encoding
  exact (hroot _ _ _ hdocument).1.of_mem_places q hq

theorem isBare_of_load (hload : source.load file = .ok d) (hq : q ∈ d.root.places) {t : Tag}
    (hname : t.name = q.tag.name) (hdeclarations : ∀ b ∈ t.declarations, b.IsPlain)
    (hattributes : t.attributes = []) : Content.IsBare t where
  nonempty := hname ▸ name_nonempty_of_load hload hq
  name := List.all_eq_true.2 (hname ▸ (isRead_of_load hload q hq).name)
  declarations := hdeclarations
  attributes := hattributes

theorem innerMarkup_copy (hload : source.load file = .ok d) (hq : q ∈ d.root.places) {e : Element}
    (hname : e.tag.name = q.tag.name) (hplain : ∀ b ∈ e.tag.declarations, b.IsPlain) :
    Content.innerMarkup [] e = e.printContent := by
  have hbare : Content.IsBare { e.tag with attributes := [] } :=
    isBare_of_load hload hq hname hplain rfl
  rw [Content.innerMarkup, Content.shell, detached_nil, Element.printContent,
    printAll_eq_flatMap]
  exact congrArg String.ofList (hbare.inside_eq e.children)

theorem nodeMarkup_of_load (hload : source.load file = .ok d) (hq : q ∈ d.root.places)
    {s : Selector} {p : Place} (htag : p.tag = q.tag) (habove : p.above = q.above)
    (hin : p.tag.name.isIn s.uris = true) (m : Matcher) :
    let own := (p.element.detached p.above).withoutDirectives m
    Content.nodeMarkup s m p = Content.innerMarkup []
      (if s.policy.isRaw p.tag then own else Content.stripped s.uris [] own) := by
  intro own
  have hname : own.tag.name = q.tag.name := congrArg (·.name) htag
  have hplain : ∀ b ∈ own.tag.declarations, b.IsPlain := by
    have hcopy := isPlain_of_mem_detached (e := p.element) (isAllPlain_of_load hload) hq
      fun _ hb => htag ▸ hb
    rwa [← habove] at hcopy
  obtain ⟨hstripped, hkept⟩ := stripped_tag s.uris [] own
  rw [Content.nodeMarkup, if_pos hin]
  split
  · exact (innerMarkup_copy hload hq hname hplain).symm
  · exact (innerMarkup_copy hload hq (hstripped.trans hname) fun b hb =>
      hplain b (hkept b hb)).symm

example :
    (Source.load (.text "<a>&gt;<![CDATA[</a>]]><!-- > --><b/></a>") none).toOption.map
      (fun d => d.root.places.map fun q => Content.innerMarkup q.above q.element)
      = some ["&gt;<![CDATA[</a>]]><!-- > --><b/>", ""] := by
  decide +kernel

end Source

end TemplateLexer
