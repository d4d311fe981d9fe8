import TemplateLexer.Proofs.Outline
/-!
Placeholders with a plain name, and the content of nodes with them. Such a placeholder has the name,
no namespace, and the id as its only attribute, and elements of the name are what a pass takes for
placeholders. The markup that a node token carries is what one recursion over the document makes of
it, however the tree was changed on the way to the node.
-/

set_option autoImplicit false

namespace TemplateLexer

open Markup

/-- A policy whose placeholders have a plain name. -/
structure Policy.Names (policy : Policy) (name : String) : Prop where
  placeholder : policy.placeholder = .str name
  isPart : isPart name.toList = true

namespace Markup

def plainPlaceholder (name id : String) : Element :=
  ⟨⟨.bare name, [], [⟨.bare "id", [.text id]⟩], 0⟩, []⟩

/-- Whether a name is plain, and the given one. -/
def Name.isPlainly (name : String) (n : Name) : Bool := n.uri.getD "" == "" && n.base == name

/-- Whether no element of a document has a plain name. -/
def Element.Lacks (root : Element) (name : String) : Prop :=
  ∀ q ∈ root.places, q.tag.name.isPlainly name = false

section Plain

variable {name : String}

theorem id?_plainPlaceholder (name id : String) :
    (plainPlaceholder name id).tag.id? = some id := by
  simp [plainPlaceholder, Tag.id?, Tag.attribute?, Name.bare, Name.expanded,
    Attribute.plainValue, Attribute.valueWith, String.join]

theorem isPlainly_plainPlaceholder (name id : String) :
    (plainPlaceholder name id).tag.name.isPlainly name = true := by
  simp [plainPlaceholder, Name.isPlainly, Name.bare]

theorem startsPart_of_isPart (h : isPart name.toList = true) :
    ∃ c cs, name.toList = c :: cs ∧ startsPart c = true := by
  cases hc : name.toList with
  | nil => simp [hc, isPart] at h
  | cons c cs =>
    rw [hc, isPart, Bool.and_eq_true] at h
    exact ⟨c, cs, rfl, h.1⟩

theorem splitExpanded_of_isPart (h : isPart name.toList = true) :
    splitExpanded name = some (none, name) := by
  obtain ⟨c, cs, hc, hstarts⟩ := startsPart_of_isPart h
  have hne : c ≠ '\x7b' := by
    rintro rfl
    exact absurd hstarts (by decide)
  rw [splitExpanded]
  split
  · rename_i cs' hcs
    rw [hc] at hcs
    exact absurd (List.cons.inj hcs).1 hne
  · rfl

theorem newElement?_of_isPart (h : isPart name.toList = true) (above : List Tag) (id : String) :
    newElement? above name [("id", id)] = some (plainPlaceholder name id) := by
  have hnew : newName? name = some (none, name) := by
    rw [newName?, splitExpanded_of_isPart h]
    simp [h]
  rw [newElement?, hnew]
  rfl

theorem read?_of_isPart {selection : Selection} (h : isPart name.toList = true)
    (hread : Selection.read? name = some selection) : selection = ⟨some "", some name⟩ := by
  obtain ⟨c, cs, hc, hstarts⟩ := startsPart_of_isPart h
  have hstar : ∀ s : String, s.toList.head? = some '*' → name ≠ s := by
    rintro s hs rfl
    rw [hc] at hs
    cases hs
    exact absurd hstarts (by decide)
  have hbrace : ∀ s : String, s.toList.head? = some '\x7b' → name ≠ s := by
    rintro s hs rfl
    rw [hc] at hs
    cases hs
    exact absurd hstarts (by decide)
  have hany : (name == "*" || name == "\x7b*\x7d*") = false := by
    simp [hstar "*" (by decide), hbrace "\x7b*\x7d*" (by decide)]
  rw [Selection.read?, hany, splitExpanded_of_isPart h] at hread
  simp only [Bool.false_eq_true, if_false] at hread
  split at hread
  · cases hread
  · split at hread
    · cases hread
    · simp [hstar "*" (by decide)] at hread
      exact hread.symm

end Plain

end Markup

namespace Policy

variable {policy : Policy} {name : String}

theorem names_standard : standard.Names "__N_-_O_-_D_-_E__" := ⟨rfl, by decide +kernel⟩

theorem Names.newPlaceholder (h : policy.Names name) (above : List Tag) (id : String) :
    policy.newPlaceholder above id = .ok (plainPlaceholder name id) := by
  rw [Policy.newPlaceholder, h.placeholder]
  simp only [newElement?_of_isPart h.isPart]

theorem Names.placeholders (h : policy.Names name) {selections : List Selection}
    (hread : policy.placeholders = .ok selections) : selections = [⟨some "", some name⟩] := by
  rw [Policy.placeholders, h.placeholder] at hread
  obtain ⟨selection, hselection, hread⟩ := Except.bind_ok hread
  cases hread
  rw [Selection.read] at hselection
  split at hselection
  · rename_i s hs
    cases hselection
    rw [read?_of_isPart h.isPart hs]
  · cases hselection

theorem Names.holds (n : Name) :
    [(⟨some "", some name⟩ : Selection)].any (·.holds n) = n.isPlainly name := by
  simp [Selection.holds, Name.isPlainly, Bool.beq_comm]

end Policy

theorem Pass.placeholders_eq {p : Pass} {policy : Policy} {root : Element} {name : String}
    (hp : Starts policy root p) (hname : policy.Names name) (b : Address) :
    p.placeholders (p.selector.nodes root) b
      = if (p.selector.nodes root).any (·.address == b) then
          some (plainPlaceholder name (p.idAt b))
        else none := by
  by_cases hb : ∃ n ∈ p.selector.nodes root, n.address = b
  · obtain ⟨n, hn, rfl⟩ := hb
    have hany : (p.selector.nodes root).any (·.address == n.address) = true :=
      List.any_eq_true.2 ⟨n, hn, by simp⟩
    rw [placeholders_of_mem (Place.apart_nodes p.selector root) hn, hany, if_pos rfl, hp.policy_eq,
      hname.newPlaceholder]
    rfl
  · have hnone : ∀ n ∈ p.selector.nodes root, n.address ≠ b := fun n hn ha => hb ⟨n, hn, ha⟩
    have hany : (p.selector.nodes root).any (·.address == b) = false := by
      rw [List.any_eq_false]
      intro n hn
      simpa using hnone n hn
    rw [placeholders_eq_none hnone, hany]
    rfl

namespace Outline

variable (o : Outline)

def standIns (name : String) : Placeholders := fun a =>
  if o.nodes.any (·.address == a) then some (plainPlaceholder name (o.idAt a)) else none

/-- A node without its own helper attributes, and with an empty element for each node right inside
it. The text after such an element is one text; all else inside the node stays. -/
def contentElement (name : String) (q : Place) : Element where
  tag := { q.tag with attributes := q.tag.attributes.filter fun a => !a.name.isIn o.selector.uris }
  children := cutNodes (o.standIns name) q.address 0 q.element.children

/-- The markup of a node, of which an element is left: without directives, without unused
declarations of helpers unless the node is shielded content, and without its own tags if it is a
helper. -/
def contentOf (m : Matcher) (q : Place) (e : Element) : String :=
  let copy := (e.detached q.above).withoutDirectives m
  let copy := if o.selector.policy.isRaw q.tag then copy
    else Content.stripped o.selector.uris [] copy
  if q.tag.name.isIn o.selector.uris then copy.printContent else copy.print

/-- The markup of a node in a document that nothing but the pass changes. -/
def content (name : String) (m : Matcher) (q : Place) : String :=
  o.contentOf m q (o.contentElement name q)

/-- The markup of a node of hypertext: the elements that are written for the expressions of the node
come with a value for each switch inside them. -/
def writtenContent (name : String) (m : Matcher) (q : Place) : String :=
  o.contentOf m q (o.selector.written { q with element := o.contentElement name q }).element

end Outline

namespace Pass

variable {p : Pass} {policy : Policy} {root : Element} {blocks : List Block} {name : String}
  {q : Place}

theorem element_view (hp : Starts policy root p) (hname : policy.Names name)
    (he : "" ∉ p.selector.uris) (q : Place) :
    (p.view (p.selector.nodes root) q).element = (p.outline root).contentElement name q := by
  have hstand : ∀ b, p.placeholders (p.selector.nodes root) b
      = (p.outline root).standIns name b := by
    intro b
    rw [placeholders_eq hp hname, Outline.standIns, nodes_outline he]
    split
    · rename_i hany
      obtain ⟨n, hn, ha⟩ := List.any_eq_true.1 hany
      rw [← eq_of_beq ha, hp.idAt_eq (Selector.mem_places_of_mem_nodes hn)]
    · rfl
  have hchildren : cutNodes (p.placeholders (p.selector.nodes root)) q.address 0 q.element.children
      = cutNodes ((p.outline root).standIns name) q.address 0 q.element.children :=
    cutNodes_congr (fun b _ _ => hstand b) 0 q.element.children
  have htag : p.selector.plainTag q.tag = ((p.outline root).contentElement name q).tag := by
    rw [Selector.plainTag, Outline.contentElement]
    simp only [Name.isInOrEmpty_eq_isIn he]
    rfl
  have hview : (p.view (p.selector.nodes root) q).element = ⟨p.selector.plainTag q.tag,
      cutNodes (p.placeholders (p.selector.nodes root)) q.address 0 q.element.children⟩ := rfl
  rw [hview, htag, hchildren]
  rfl

theorem content_view (hp : Starts policy root p) (hname : policy.Names name)
    (he : "" ∉ p.selector.uris) (q : Place) :
    Content.nodeMarkup p.selector p.directives (p.settled (p.view (p.selector.nodes root) q))
      = if p.hypertext then (p.outline root).writtenContent name p.directives q
        else (p.outline root).content name p.directives q := by
  have hview : p.view (p.selector.nodes root) q
      = { q with element := (p.outline root).contentElement name q } :=
    congrArg (fun e => ({ q with element := e } : Place)) (element_view hp hname he q)
  rw [hview, settled]
  split <;> rfl

end Pass

namespace Document

/-- The contents of the nodes of a stream, unless names in no namespace are helpers. In hypertext
writing the elements in expressions changes them. -/
theorem lex_content {policy : Policy} {name : String} {d : Markup.Document}
    {file : Option String} {stream : LexedStream} (hname : policy.Names name)
    (h : (lex policy d file).run.1 = .ok stream) :
    ∃ (o : Outline) (m : Matcher), o.IsOf policy d.root ∧ policy.matcher = .ok m
      ∧ ("" ∉ o.selector.uris →
        (stream.toList.filterMap Token.node?).map (fun f => (f.id, f.path, f.content))
          = (byDepth o.nodes).map fun q => (o.idAt q.address, o.pathAt q.address,
              if d.isHypertext then o.writtenContent name m q else o.content name m q)) := by
  obtain ⟨p, blocks, hp, hhypertext, hblocks, hstream⟩ := lex_ok h
  refine ⟨p.outline d.root, p.directives, hp.isOf, hp.directives, fun he => ?_⟩
  rw [Pass.nodes_outline he, hstream, nodeFields_stream hblocks, ← hblocks.places,
    List.map_map, List.map_map]
  refine List.map_congr_left fun b hb => ?_
  have hmem := Selector.mem_places_of_mem_nodes (hblocks.mem_nodes hb)
  rw [Function.comp, Function.comp, Pass.nodeFields, hp.idAt_eq hmem, hp.pathAt_eq hmem,
    Pass.content_view hp hname he, hhypertext]

theorem lex_content_sample : ∃ stream m, (lex .standard sample none).run.1 = .ok stream
    ∧ Policy.standard.matcher = .ok m
    ∧ (stream.toList.filterMap Token.node?).map (fun f => (f.id, f.path, f.content))
      = (let o : Outline := ⟨⟨["urn:x"], .standard, fun _ => ""⟩, .sha1, sample.root⟩
        (byDepth o.nodes).map fun q => (o.idAt q.address, o.pathAt q.address,
          o.content "__N_-_O_-_D_-_E__" m q)) := by
  obtain ⟨stream, h⟩ := Except.exists_of_isOk
    (show (lex .standard sample none).run.1.isOk = true by decide +kernel)
  obtain ⟨o, m, ho, hm, hcontent⟩ := lex_content Policy.names_standard h
  obtain rfl := eq_of_isOf_sample ho
  exact ⟨stream, m, h, hm, hcontent (by decide)⟩

/-- The source of hypertext with an element in an expression. -/
def sourceOfHypertext : Source :=
  .text ("<!DOCTYPE html PUBLIC \"-//W3C//DTD XHTML 1.0 Strict//EN\" \"x\">"
    ++ "<html><p>{% a %}<select><option selected=\"\"/></select></p></html>")

/-- Writing an element of hypertext for an expression fills the switches inside it, so that the
content of its node is not what nothing but the pass makes of the document. -/
theorem lex_content_hypertext : ∃ (d : Markup.Document) (stream : LexedStream) (o : Outline)
    (m : Matcher), sourceOfHypertext.load none = .ok d ∧ d.root.Lacks "__N_-_O_-_D_-_E__"
      ∧ (lex .standard d none).run.1 = .ok stream ∧ o.IsOf .standard d.root
      ∧ Policy.standard.matcher = .ok m ∧ "" ∉ o.selector.uris
      ∧ (stream.toList.filterMap Token.node?).map (·.content)
        = ["<html><p>{% a %}<select><option selected=\"selected\"/></select></p></html>"]
      ∧ (byDepth o.nodes).map (o.content "__N_-_O_-_D_-_E__" m)
        = ["<html><p>{% a %}<select><option selected=\"\"/></select></p></html>"] := by
  have hchecks : (sourceOfHypertext.load none).toOption.any (fun d =>
      Policy.standard.matcher.toOption.any fun m =>
        let o : Outline := ⟨⟨[], .standard, fun _ => ""⟩, .sha1, d.root⟩
        (d.root.places.all fun q => !q.tag.name.isPlainly "__N_-_O_-_D_-_E__")
          && (Policy.classify .standard d.root).run.1.toOption == some []
          && decide ((byDepth o.nodes).map (o.content "__N_-_O_-_D_-_E__" m)
            = ["<html><p>{% a %}<select><option selected=\"\"/></select></p></html>"])
          && (lex .standard d none).run.1.toOption.any fun stream =>
            decide ((stream.toList.filterMap Token.node?).map (·.content)
              = ["<html><p>{% a %}<select><option selected=\"selected\"/></select></p></html>"]))
        = true := by
    decide +kernel
  obtain ⟨d, hload, hchecks⟩ := Except.exists_of_any hchecks
  obtain ⟨m, hm, hchecks⟩ := Except.exists_of_any hchecks
  simp only [Bool.and_eq_true] at hchecks
  obtain ⟨⟨⟨hlacks, huris⟩, hwanted⟩, hlexes⟩ := hchecks
  obtain ⟨stream, h, hcontents⟩ := Except.exists_of_any hlexes
  obtain ⟨p, -, hp, -⟩ := lex_ok h
  have ho := hp.isOf
  have houtline : p.outline d.root = ⟨⟨[], .standard, fun _ => ""⟩, .sha1, d.root⟩ :=
    ho.eq (eq_of_beq huris) Policy.hashing_standard
  rw [houtline] at ho
  refine ⟨d, stream, _, m, hload, fun q hq => ?_, h, ho, hm, List.not_mem_nil,
    of_decide_eq_true hcontents, of_decide_eq_true hwanted⟩
  simpa using List.all_eq_true.1 hlacks q hq

end Document

end TemplateLexer
