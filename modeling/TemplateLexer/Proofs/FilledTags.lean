import Mathlib.Data.List.Forall2
import TemplateLexer.Lexing.Expressions

set_option autoImplicit false

namespace TemplateLexer

open Markup

namespace Markup

mutual

/-- The tags in a node, in document order. -/
def Node.tags : Node → List Tag
  | .element tag children => tag :: tagsIn children
  | _ => []

def tagsIn : List Node → List Tag
  | [] => []
  | n :: rest => n.tags ++ tagsIn rest

end

/-- The attributes of a tag that have no namespace. -/
def Tag.unqualified (t : Tag) : List Attribute := t.attributes.filter (·.name.uri.getD "" == "")

/-- A tag apart from its declarations and its line. -/
def Tag.body (t : Tag) : Name × List Attribute := (t.name, t.attributes)

section Tags

theorem Node.tags_of_isCharacters {n : Node} (h : n.isCharacters = true) : n.tags = [] := by
  cases n <;> simp_all [tags, isCharacters]

theorem tagsIn_append (xs ys : List Node) : tagsIn (xs ++ ys) = tagsIn xs ++ tagsIn ys := by
  induction xs with
  | nil => rfl
  | cons n xs ih => rw [List.cons_append, tagsIn, tagsIn, ih, List.append_assoc]

theorem tagsIn_of_characters {nodes : List Node} (h : ∀ n ∈ nodes, n.isCharacters = true) :
    tagsIn nodes = [] := by
  induction nodes with
  | nil => rfl
  | cons n rest ih =>
    rw [tagsIn, Node.tags_of_isCharacters (h n (List.mem_cons_self ..)),
      ih fun m hm => h m (List.mem_cons_of_mem _ hm)]
    rfl

mutual

theorem map_tag_placesOf (a : Address) (above : List Tag) (n : Node) :
    (placesOf a above n).map Place.tag = n.tags := by
  cases n with
  | element tag children =>
    rw [placesOf, List.map_cons, map_tag_placesBelow a (tag :: above) 0 children, Node.tags]
    rfl
  | text _ | cdata _ | comment _ | instruction _ _ | reference _ => simp [placesOf, Node.tags]

theorem map_tag_placesBelow (a : Address) (above : List Tag) (index : Nat) (nodes : List Node) :
    (placesBelow a above index nodes).map Place.tag = tagsIn nodes := by
  cases nodes with
  | nil => simp [placesBelow, tagsIn]
  | cons n rest =>
    rw [placesBelow, List.map_append, map_tag_placesOf (a ++ [index]) above n,
      map_tag_placesBelow a above _ rest, tagsIn]

end

end Tags

end Markup

section Filled

def Markup.Tag.MayFill (t t' : Tag) : Prop := t' = t ∨ t' = Hypertext.fillTag [] t

mutual

theorem tags_fillWritten (written : List Address) (inside : Bool) (a : Address) (n : Node) :
    List.Forall₂ Tag.MayFill n.tags (Hypertext.fillWritten written inside a n).tags := by
  cases n with
  | element tag children =>
    rw [Hypertext.fillWritten, Node.tags, Node.tags]
    refine .cons ?_ (tagsIn_fillWrittenIn written _ a 0 children)
    cases inside with
    | false => exact .inl rfl
    | true => exact .inr rfl
  | text _ | cdata _ | comment _ | instruction _ _ | reference _ =>
    simp [Hypertext.fillWritten, Node.tags]

theorem tagsIn_fillWrittenIn (written : List Address) (inside : Bool) (a : Address) (index : Nat)
    (nodes : List Node) : List.Forall₂ Tag.MayFill (tagsIn nodes)
      (tagsIn (Hypertext.fillWrittenIn written inside a index nodes)) := by
  cases nodes with
  | nil => rw [Hypertext.fillWrittenIn, tagsIn]; exact .nil
  | cons n rest =>
    rw [Hypertext.fillWrittenIn, tagsIn, tagsIn]
    exact List.rel_append (tags_fillWritten written inside _ n)
      (tagsIn_fillWrittenIn written inside a _ rest)

end

theorem tags_written (s : Selector) (q : Place) :
    List.Forall₂ Tag.MayFill q.element.node.tags (s.written q).element.node.tags :=
  .cons (.inl rfl) (tagsIn_fillWrittenIn _ _ _ _ _)

theorem Pass.mayFill_settled (p : Pass) (q : Place) :
    List.Forall₂ Tag.MayFill q.element.node.tags (p.settled q).element.node.tags := by
  rw [settled]
  split
  · exact tags_written p.selector q
  · exact List.forall₂_same.2 fun t _ => .inl rfl

theorem name_fillAttribute (items : List DoctypeItem) (a : Attribute) :
    (Hypertext.fillAttribute items a).name = a.name := by
  rw [Hypertext.fillAttribute]
  split <;> rfl

theorem unqualified_fillTag (items : List DoctypeItem) (t : Tag) :
    (Hypertext.fillTag items t).unqualified
      = t.unqualified.map (Hypertext.fillAttribute items) := by
  rw [Tag.unqualified, Hypertext.fillTag, List.filter_map]
  congr 1
  exact List.filter_congr fun a _ => by rw [Function.comp, name_fillAttribute]

end Filled

section Settled

open Hypertext

variable {items : List DoctypeItem} {d : Document} {e : Element} {t : Tag}

/-- Whether the switches of a tag that have no value in a document have none without its entities
either, and the other way round. -/
def Markup.Tag.SwitchesAlike (items : List DoctypeItem) (t : Tag) : Prop :=
  ∀ a ∈ t.attributes, isSwitch a = true → isVacant items a.value = isVacant [] a.value

theorem Markup.Tag.SwitchesAlike.fillTag_eq (h : t.SwitchesAlike items) :
    fillTag items t = fillTag [] t := by
  have hattributes : t.attributes.map (fillAttribute items)
      = t.attributes.map (fillAttribute []) := by
    refine List.map_congr_left fun a ha => ?_
    rw [fillAttribute, fillAttribute]
    cases hswitch : isSwitch a with
    | false => rfl
    | true => rw [h a ha hswitch]
  rw [fillTag, fillTag, hattributes]

mutual

theorem fill_eq_of_alike (n : Node) (h : ∀ t ∈ n.tags, t.SwitchesAlike items) :
    fill items n = fill [] n := by
  cases n with
  | element tag children =>
    rw [Node.tags, List.forall_mem_cons] at h
    rw [fill, fill, h.1.fillTag_eq, fillAll_eq_of_alike children h.2]
  | text _ | cdata _ | comment _ | instruction _ _ | reference _ => simp [fill]

theorem fillAll_eq_of_alike (nodes : List Node) (h : ∀ t ∈ tagsIn nodes, t.SwitchesAlike items) :
    fillAll items nodes = fillAll [] nodes := by
  cases nodes with
  | nil => rw [fillAll, fillAll]
  | cons n rest =>
    rw [tagsIn, List.forall_mem_append] at h
    rw [fillAll, fillAll, fill_eq_of_alike n h.1, fillAll_eq_of_alike rest h.2]

end

mutual

/-- Entities only matter to the head of a document, and a part of it is not known to be that. -/
theorem print_part_items (items : List DoctypeItem) (n : Node) :
    Hypertext.print items none n = Hypertext.print [] none n := by
  cases n with
  | element tag children =>
    rw [print_part, print_part, printList_part_items items children]
  | text _ | cdata _ | comment _ | instruction _ _ | reference _ => simp [Hypertext.print]

theorem printList_part_items (items : List DoctypeItem) (nodes : List Node) :
    printList items none nodes = printList [] none nodes := by
  cases nodes with
  | nil => rw [printList, printList]
  | cons n rest =>
    rw [printList, printList, print_part_items items n, printList_part_items items rest]

end

/-- Out of a copy, an element is written as it is in the document, if its switches are. -/
theorem Markup.Document.markupIn_eq_printNode (h : ∀ t ∈ e.node.tags, t.SwitchesAlike d.items) :
    e.markupIn d.isHypertext = String.ofList (d.printNode none e.node) := by
  rw [Element.markupIn, Document.printNode]
  split
  · rw [fill_eq_of_alike e.node h, print_part_items d.items]
  · rfl

end Settled

section Lines

open Hypertext

variable {t : Tag} {value : List Chunk} {items : List DoctypeItem}

theorem lineBreaks_eq_zero {cs : List Char} (h : '\n' ∉ cs) : lineBreaks cs = 0 :=
  List.count_eq_zero.2 h

theorem lineBreaks_escapeValue (s : String) : lineBreaks (escapeValue s) = 0 := by
  refine lineBreaks_eq_zero fun h => ?_
  obtain ⟨c, -, hc⟩ := List.mem_flatMap.1 h
  unfold escapeValueChar at hc
  split at hc
  case h_8 hbreak _ _ => exact hbreak (List.mem_singleton.1 hc).symm
  all_goals exact absurd hc (by decide)

/-- Whether the names in a tag are on one line, and those of entities in its attributes. -/
structure Markup.Tag.OnLine (t : Tag) : Prop where
  name : '\n' ∉ t.name.written.toList
  values : ∀ a ∈ t.attributes, ∀ n, .reference n ∈ a.value → '\n' ∉ n.toList

theorem lineBreaks_printValue (h : ∀ n, .reference n ∈ value → '\n' ∉ n.toList) :
    lineBreaks (Attribute.printValue value) = 0 := by
  refine lineBreaks_eq_zero fun hmem => ?_
  obtain ⟨chunk, hchunk, hmem⟩ := List.mem_flatMap.1 hmem
  cases chunk with
  | text s => exact List.count_eq_zero.1 (lineBreaks_escapeValue s) hmem
  | reference n =>
    have hname : '\n' ∈ n.toList := by simpa using hmem
    exact h n hchunk hname

theorem lineBreaks_printUnder {name : String} (hname : '\n' ∉ name.toList)
    (h : ∀ n, .reference n ∈ value → '\n' ∉ n.toList) :
    lineBreaks (printUnder name value) = 0 := by
  have hvalue := List.count_eq_zero.1 (lineBreaks_printValue h)
  exact lineBreaks_eq_zero (by simp [printUnder, hname, hvalue])

theorem mem_of_lastValue? {p : Name → Bool} (h : lastValue? p t = some value) :
    ∃ a ∈ t.attributes, a.value = value := by
  obtain ⟨a, hfind, ha⟩ := Option.map_eq_some_iff.1 h
  exact ⟨a, List.mem_reverse.1 (List.mem_of_find?_eq_some hfind), ha⟩

theorem lineBreaks_printAgain (h : t.OnLine) : lineBreaks (printAgain t) = 0 := by
  have hunder : ∀ {p : Name → Bool} {v : List Chunk} {name : String}, lastValue? p t = some v →
      '\n' ∉ name.toList → lineBreaks (printUnder name v) = 0 := by
    intro p v name hlast hname
    obtain ⟨a, ha, rfl⟩ := mem_of_lastValue? hlast
    exact lineBreaks_printUnder hname (h.values a ha)
  rw [printAgain, lineBreaks_append]
  refine Nat.add_eq_zero_iff.2 ⟨?_, ?_⟩
  · split
    · rename_i v hname _
      split
      · exact hunder hname (by decide)
      · rfl
    · rfl
  · split
    · rename_i v hlang _
      exact hunder hlang (by decide)
    · rename_i v _ hlang
      exact hunder hlang (by decide)
    · rfl

theorem lineBreaks_cons {c : Char} {cs : List Char} (h : c ≠ '\n') :
    lineBreaks (c :: cs) = lineBreaks cs :=
  List.count_cons_of_ne h

theorem lineBreaks_printAttribute {a : Attribute}
    (h : ∀ n, .reference n ∈ a.value → '\n' ∉ n.toList) :
    lineBreaks a.print = lineBreaks a.name.written.toList := by
  rw [Attribute.print, lineBreaks_append, lineBreaks_append, lineBreaks_cons (by decide),
    lineBreaks_cons (by decide), lineBreaks_cons (by decide), lineBreaks_printValue h]
  rfl

theorem Markup.Tag.OnLine.fillTag (h : t.OnLine) : (Hypertext.fillTag items t).OnLine := by
  refine ⟨h.name, fun a ha n hn => ?_⟩
  obtain ⟨b, hb, rfl⟩ := List.mem_map.1 ha
  rw [fillAttribute] at hn
  split at hn
  · simp at hn
  · exact h.values b hb n hn

theorem lineBreaks_printTag (h : t.OnLine) :
    lineBreaks (printTag (Hypertext.fillTag items t)) = lineBreaks t.print := by
  have hattributes : lineBreaks ((Hypertext.fillTag items t).attributes.flatMap Attribute.print)
      = lineBreaks (t.attributes.flatMap Attribute.print) := by
    have hfilled : (Hypertext.fillTag items t).OnLine := h.fillTag
    rw [Hypertext.fillTag] at hfilled ⊢
    rw [lineBreaks, lineBreaks, List.count_flatMap, List.count_flatMap, List.map_map]
    congr 1
    refine List.map_congr_left fun a ha => ?_
    refine (lineBreaks_printAttribute (hfilled.values _ (List.mem_map_of_mem ha))).trans ?_
    rw [name_fillAttribute]
    exact (lineBreaks_printAttribute (h.values a ha)).symm
  have hown : lineBreaks (printUnder "xmlns" [.text Hypertext.uri]) = 0 :=
    lineBreaks_printUnder (by decide) (by simp)
  have hname : (Hypertext.fillTag items t).name = t.name := rfl
  have hdeclarations : (Hypertext.fillTag items t).declarations = t.declarations := rfl
  rw [printTag, Tag.print, hname, hdeclarations]
  simp only [lineBreaks_append, lineBreaks_printAgain h.fillTag, hattributes]
  split
  · rw [hown]
    omega
  · rfl

theorem isEmpty_fillAll (nodes : List Node) : (fillAll items nodes).isEmpty = nodes.isEmpty := by
  cases nodes <;> rfl

theorem lineBreaks_printBetween {name : String} (h : '\n' ∉ name.toList) (tag inside : List Char) :
    lineBreaks (tag ++ '>' :: inside ++ '<' :: '/' :: name.toList ++ ['>'])
      = lineBreaks tag + lineBreaks inside := by
  rw [lineBreaks_append, lineBreaks_append, lineBreaks_append, lineBreaks_cons (by decide),
    lineBreaks_cons (by decide), lineBreaks_cons (by decide), lineBreaks_eq_zero h]
  rfl

mutual

theorem lineBreaks_printPart (n : Node) (h : ∀ t ∈ n.tags, t.OnLine) :
    lineBreaks (Hypertext.print items none (fill items n)) = lineBreaks n.print := by
  cases n with
  | element tag children =>
    rw [Node.tags, List.forall_mem_cons] at h
    have htag : lineBreaks (printTag (fillTag items tag)) = lineBreaks tag.print :=
      lineBreaks_printTag h.1
    have hinside := lineBreaks_printParts children h.2
    have hname : (fillTag items tag).name = tag.name := rfl
    rw [fill, print_part, Node.print, isEmpty_fillAll, hname]
    have hlong := lineBreaks_printBetween h.1.name (printTag (fillTag items tag))
      (printList items none (fillAll items children))
    rw [htag, hinside] at hlong
    cases children with
    | nil =>
      rw [List.isEmpty_nil, Bool.true_and, if_pos rfl, lineBreaks_append]
      split
      · rw [lineBreaks_append, htag]
        rfl
      · exact hlong
    | cons n rest =>
      rw [List.isEmpty_cons, Bool.false_and, if_neg Bool.false_ne_true, if_neg Bool.false_ne_true,
        hlong, lineBreaks_printBetween h.1.name]
  | text _ | cdata _ | comment _ | instruction _ _ | reference _ => simp [fill, Hypertext.print]

theorem lineBreaks_printParts (nodes : List Node) (h : ∀ t ∈ tagsIn nodes, t.OnLine) :
    lineBreaks (printList items none (fillAll items nodes)) = lineBreaks (printAll nodes) := by
  cases nodes with
  | nil => rw [fillAll, printList, printAll]
  | cons n rest =>
    rw [tagsIn, List.forall_mem_append] at h
    rw [fillAll, printList, printAll, lineBreaks_append, lineBreaks_append,
      lineBreaks_printPart n h.1, lineBreaks_printParts rest h.2]

end

theorem lineBreaks_markupIn {e : Element} (hypertext : Bool) (h : ∀ t ∈ e.node.tags, t.OnLine) :
    lineBreaks (e.markupIn hypertext).toList = lineBreaks e.node.print := by
  cases hypertext with
  | false => exact congrArg lineBreaks String.toList_ofList
  | true => exact (congrArg lineBreaks String.toList_ofList).trans (lineBreaks_printPart e.node h)

end Lines

end TemplateLexer
