import TemplateLexer.Lexer
import TemplateLexer.Proofs.CutPlaces
import TemplateLexer.Proofs.Ownership
import TemplateLexer.Proofs.Reading

set_option autoImplicit false

namespace TemplateLexer

open Markup

namespace Selector

/-- A tag without its helper attributes. -/
def plainTag (s : Selector) (t : Tag) : Tag :=
  { t with attributes := t.attributes.filter fun a => !a.name.isInOrEmpty s.uris }

theorem filter_isSame_helperAttributes (s : Selector) (t : Tag) :
    (t.attributes.filter fun b => !(s.helperAttributes t).any fun a => b.name.isSame a.name)
      = t.attributes.filter fun a => !a.name.isInOrEmpty s.uris := by
  refine List.filter_congr fun b hb => ?_
  congr 1
  rw [Bool.eq_iff_iff, List.any_eq_true]
  constructor
  · rintro ⟨a, ha, hsame⟩
    have huri : b.name.uri = a.name.uri := by
      simp only [Name.isSame, Bool.and_eq_true, beq_iff_eq] at hsame
      exact hsame.1
    rw [Name.isInOrEmpty, huri]
    exact (List.mem_filter.1 ha).2
  · intro hin
    exact ⟨b, List.mem_filter.2 ⟨hb, hin⟩, by simp [Name.isSame]⟩

end Selector

namespace Pass

/-- The placeholders that nodes leave. -/
def placeholders (p : Pass) (nodes : List Place) : Placeholders := fun a =>
  (nodes.find? (·.address == a)).bind fun q =>
    (p.policy.newPlaceholder q.above (p.idAt a)).toOption

/-- A node with placeholders for the nodes inside it. -/
def found (p : Pass) (nodes : List Place) (q : Place) : Place :=
  { q with element := q.element.cut (p.placeholders nodes) q.address }

/-- A node as its token shows it: without its helper attributes too. -/
def view (p : Pass) (nodes : List Place) (q : Place) : Place :=
  { q with element := { p.found nodes q |>.element with tag := p.selector.plainTag q.tag } }

/-- What is left of the attributes of an element helper are those that it may hold expressions
in. -/
theorem elementHelperExpressions_view (p : Pass) (nodes : List Place) (q : Place) :
    p.selector.elementHelperExpressions (p.view nodes q).tag
      = p.selector.elementHelperExpressions q.tag := by
  have hattributes : (p.view nodes q).tag.attributes
      = q.tag.attributes.filter fun a => !a.name.isInOrEmpty p.selector.uris := rfl
  rw [Selector.elementHelperExpressions, hattributes, List.filter_filter,
    Selector.elementHelperExpressions]
  refine List.filter_congr fun a _ => ?_
  cases a.name.isInOrEmpty p.selector.uris <;> simp

/-- A node as it is kept before its token is made. -/
def intact (p : Pass) (nodes : List Place) (q : Place) : String × Element :=
  (p.idAt q.address, (p.found nodes q).element.detached q.above)

def workAfter (p : Pass) (root : Element) (nodes done : List Place) : Work :=
  ⟨root.cut (p.placeholders done) [], [], done.map (p.intact nodes),
    done.map fun r => p.idAt r.address⟩

def workOn (p : Pass) (root : Element) (nodes done : List Place) (q : Place) : Work :=
  { p.workAfter root nodes done with
    root := (root.cut (p.placeholders done) []).modifyTag p.selector.plainTag q.address
    intact := p.intact nodes q :: done.map (p.intact nodes) }

end Pass

/-- What a node adds to a stream, apart from what the document tells at once. -/
structure Block where
  place : Place
  previous : Option String
  next : Option String
  children : List String
  /-- Expressions that the node owns. -/
  sites : List Token
  /-- The element helper and the expressions on it. -/
  element : List Token
  /-- Attribute helpers, each one before its expression. -/
  attributes : List Token

namespace Pass

variable (p : Pass)

def nodeFields (nodes : List Place) (b : Block) : NodeFields :=
  ⟨p.idAt b.place.address, p.pathAt b.place.address, p.ancestorAt nodes b.place.address,
    b.previous, b.next, Content.nodeMarkup p.selector p.directives (p.settled (p.view nodes b.place)), b.children⟩

def nodeToken (nodes : List Place) (b : Block) : Token :=
  ⟨if b.place.address.isEmpty then .rootNode else .elementNode, b.place.tag.line,
    .node (p.nodeFields nodes b)⟩

def blockTokens (nodes : List Place) (b : Block) : List Token :=
  p.nodeToken nodes b :: (b.sites ++ b.element ++ b.attributes)

theorem blockTokens_append (nodes : List Place) (b : Block) (ts : List Token) :
    p.blockTokens nodes b ++ ts
      = p.nodeToken nodes b :: (b.sites ++ (b.element ++ (b.attributes ++ ts))) := by
  simp [blockTokens]

def attributeHelperToken (q : Place) (a : Attribute) : Token :=
  let path := p.attributePath q.address q.tags a.name
  ⟨.attributeHelper, q.tag.line,
    .helper ⟨p.digest.hex path, path, a.name.base, a.name.uri.getD "", [], some a.plainValue⟩⟩

def elementHelperToken (q : Place) : Token :=
  ⟨.elementHelper, q.tag.line,
    .helper ⟨p.idAt q.address, p.pathAt q.address, q.tag.name.base, q.tag.name.uri.getD "",
      Working.plainAttributes p.selector.uris q.tags q.tag, none⟩⟩

def IsAttributePart (w : Work) (q : Place) (a : Attribute) (part : List Token) : Prop :=
  ∃ site, part = p.attributeHelperToken q a :: site
    ∧ if hasDelimiter a.plainValue.toList then
        ∃ t, (Working.attributeSite p q a).Gives w t ∧ site = [t]
      else site = []

def IsElementPart (w : Work) (q : Place) (part : List Token) : Prop :=
  if q.tag.name.isIn p.selector.uris then
    ∃ sites, part = p.elementHelperToken q :: sites
      ∧ List.Forall₂ (fun s t => (Working.siteToken p s).Gives w t)
          ((p.selector.elementHelperExpressions q.tag).map (.attributeOf q)) sites
  else part = []

/-- How a block comes from the document. -/
structure Describes (root : Element) (nodes done : List Place) (b : Block) : Prop where
  attributes : ∃ parts, List.Forall₂
      (p.IsAttributePart (p.workOn root nodes done b.place) b.place)
      (p.selector.helperAttributes b.place.tag) parts
    ∧ b.attributes = parts.flatten
  element : p.IsElementPart (p.workOn root nodes done b.place) (p.view nodes b.place) b.element
  sites : List.Forall₂
    (fun s t => (Working.siteToken p s).Gives (p.workOn root nodes done b.place) t)
    (p.selector.nodeExpressions (p.view nodes b.place)) b.sites
  previous : (Working.previous? p (p.markerOf nodes b.place)).Gives
    (p.workOn root nodes done b.place) b.previous
  next : (Working.next? p (p.markerOf nodes b.place)).Gives
    (p.workOn root nodes done b.place) b.next
  children : (Working.children p (p.markerOf nodes b.place)).Gives
    (p.workOn root nodes done b.place) b.children
  placeholder : b.place.address ≠ [] →
    ∃ e, p.policy.newPlaceholder b.place.above (p.idAt b.place.address) = .ok e

section Parts

variable {p} {w : Work} {q : Place} {t : Token}

theorem IsElementPart.of_mem {part : List Token} (h : p.IsElementPart w q part) (ht : t ∈ part) :
    q.tag.name.isIn p.selector.uris = true ∧ (t = p.elementHelperToken q
      ∨ ∃ a ∈ p.selector.elementHelperExpressions q.tag,
        (Working.siteToken p (.attributeOf q a)).Gives w t) := by
  rw [IsElementPart] at h
  split at h
  · rename_i hname
    obtain ⟨sites, rfl, hsites⟩ := h
    refine ⟨hname, (List.mem_cons.1 ht).imp_right fun ht => ?_⟩
    obtain ⟨s, hs, hgives⟩ := exists_of_forall₂ hsites ht
    obtain ⟨a, ha, rfl⟩ := List.mem_map.1 hs
    exact ⟨a, ha, hgives⟩
  · rw [h] at ht
    cases ht

theorem IsAttributePart.of_mem {a : Attribute} {part : List Token}
    (h : p.IsAttributePart w q a part) (ht : t ∈ part) :
    t = p.attributeHelperToken q a ∨ hasDelimiter a.plainValue.toList = true
      ∧ (Working.siteToken p (.attributeOf q a)).Gives w t := by
  obtain ⟨site, rfl, hsite⟩ := h
  refine (List.mem_cons.1 ht).imp_right fun ht => ?_
  split at hsite
  · rename_i hd
    obtain ⟨t', hgives, rfl⟩ := hsite
    exact ⟨hd, List.mem_singleton.1 ht ▸ hgives⟩
  · rw [hsite] at ht
    cases ht

theorem Describes.of_mem_attributes {root : Element} {nodes done : List Place} {b : Block}
    (h : p.Describes root nodes done b) (ht : t ∈ b.attributes) :
    ∃ a ∈ p.selector.helperAttributes b.place.tag, t = p.attributeHelperToken b.place a
      ∨ hasDelimiter a.plainValue.toList = true
        ∧ (Working.siteToken p (.attributeOf b.place a)).Gives
          (p.workOn root nodes done b.place) t := by
  obtain ⟨parts, hparts, hflatten⟩ := h.attributes
  rw [hflatten] at ht
  obtain ⟨part, hpart, ht⟩ := List.mem_flatten.1 ht
  obtain ⟨a, ha, hpart⟩ := exists_of_forall₂ hparts hpart
  exact ⟨a, ha, hpart.of_mem ht⟩

end Parts

end Pass

section Placeholders

variable {p : Pass} {nodes done : List Place} {a : Address} {q : Place}

theorem Pass.placeholders_of_mem (h : Place.Apart nodes) (hq : q ∈ nodes) :
    p.placeholders nodes q.address
      = (p.policy.newPlaceholder q.above (p.idAt q.address)).toOption := by
  rw [Pass.placeholders, (find?_eq_some_iff_mem h).2 ⟨hq, rfl⟩]
  rfl

theorem Pass.placeholders_eq_none (h : ∀ q ∈ nodes, q.address ≠ a) :
    p.placeholders nodes a = none := by
  rw [Pass.placeholders, find?_eq_none_iff.2 h]
  rfl

theorem Pass.placeholders_congr (h : Place.Apart nodes) (hsub : ∀ q ∈ done, q ∈ nodes)
    (ha : ∀ q ∈ nodes, q.address = a → q ∈ done) :
    p.placeholders done a = p.placeholders nodes a := by
  by_cases hex : ∃ q ∈ nodes, q.address = a
  · obtain ⟨q, hq, rfl⟩ := hex
    have hdone : Place.Apart done := fun q hq r hr => h q (hsub q hq) r (hsub r hr)
    rw [placeholders_of_mem h hq, placeholders_of_mem hdone (ha q hq rfl)]
  · have hnone : ∀ q ∈ nodes, q.address ≠ a := fun q hq he => hex ⟨q, hq, he⟩
    rw [placeholders_eq_none hnone, placeholders_eq_none fun q hq => hnone q (hsub q hq)]

/-- A placeholder is an empty element of the written name with an id, and declares at most the
namespace of the name. -/
theorem Policy.newPlaceholder_ok {policy : Policy} {above : List Tag} {id : String}
    {e : Element} (h : policy.newPlaceholder above id = .ok e) :
    ∃ s uri base, policy.placeholder = .str s ∧ newName? s = some (uri, base)
      ∧ e = ⟨⟨(nameBelow above uri base).1, (nameBelow above uri base).2,
        [⟨.bare "id", [.text id]⟩], 0⟩, []⟩ := by
  rw [Policy.newPlaceholder] at h
  split at h
  · rename_i s hs
    split at h
    · rename_i e' he
      cases h
      obtain ⟨⟨uri, base⟩, hname, rfl⟩ := Option.map_eq_some_iff.1 he
      exact ⟨s, uri, base, hs, hname, rfl⟩
    · cases h
  · cases h

theorem Policy.children_newPlaceholder {policy : Policy} {above : List Tag} {id : String}
    {e : Element} (h : policy.newPlaceholder above id = .ok e) : e.children = [] := by
  obtain ⟨s, uri, base, -, -, rfl⟩ := newPlaceholder_ok h
  rfl

theorem Pass.exists_newPlaceholder {e : Element} (h : p.placeholders nodes a = some e) :
    ∃ above, p.policy.newPlaceholder above (p.idAt a) = .ok e := by
  rw [Pass.placeholders] at h
  obtain ⟨q, -, h⟩ := Option.bind_eq_some_iff.1 h
  cases hnew : p.policy.newPlaceholder q.above (p.idAt a) with
  | error f => simp [hnew, Except.toOption] at h
  | ok x =>
    simp only [hnew, Except.toOption, Option.some.injEq] at h
    exact ⟨q.above, h ▸ hnew⟩

theorem Pass.children_placeholders {e : Element} (h : p.placeholders nodes a = some e) :
    e.children = [] := by
  obtain ⟨above, hnew⟩ := Pass.exists_newPlaceholder h
  exact Policy.children_newPlaceholder hnew

end Placeholders

section Helpers

variable {p : Pass} {m : Marker} {q : Place}

namespace Working

theorem gives_attributeSite {a : Attribute} {v w w' : Work} {t : Token}
    (h : attributeSite p q a w = .ok (t, w')) : (attributeSite p q a).Gives v t := by
  refine ⟨[], ?_⟩
  have ht := (ofExcept_ok h).1
  rw [attributeSite, ht]
  rfl

theorem attributeHelper_ok {a : Attribute} {v w w' : Work} (hline : m.line = q.tag.line)
    (h : attributeHelper p m q a w = .ok ((), w')) :
    ∃ part, p.IsAttributePart v q a part
      ∧ w' = { w with
          tokens := part ++ w.tokens
          root := w.root.modifyTag
            (fun t => { t with attributes := t.attributes.filter fun b => !b.name.isSame a.name })
            m.address } := by
  have hemit : ∀ {mid : Work},
      (do
        emit ⟨.attributeHelper, m.line,
          .helper ⟨p.digest.hex (p.attributePath q.address q.tags a.name),
            p.attributePath q.address q.tags a.name, a.name.base, a.name.uri.getD "", [],
            some a.plainValue⟩⟩
        dropAttribute m.address a.name : Working Unit) mid = .ok ((), w') →
      w' = { mid with
        tokens := p.attributeHelperToken q a :: mid.tokens
        root := mid.root.modifyTag
          (fun t => { t with attributes := t.attributes.filter fun b => !b.name.isSame a.name })
          m.address } := by
    intro mid h
    obtain ⟨_, mid', he, h⟩ := bind_ok h
    obtain rfl := emit_ok he
    rw [modify_ok h, hline]
    rfl
  by_cases hd : hasDelimiter a.plainValue.toList = true
  · rw [attributeHelper] at h
    simp only [hd, if_true] at h
    obtain ⟨t, mid, ht, h⟩ := bind_ok h
    obtain ⟨_, mid', he, h⟩ := bind_ok h
    have hgives := gives_attributeSite (v := v) ht
    obtain rfl := (reads_attributeSite p q a).eq ht
    obtain rfl := emit_ok he
    refine ⟨[p.attributeHelperToken q a, t], ⟨[t], rfl, ?_⟩, hemit h⟩
    rw [if_pos hd]
    exact ⟨t, hgives, rfl⟩
  · rw [attributeHelper] at h
    simp only [hd, Bool.false_eq_true, if_false] at h
    refine ⟨[p.attributeHelperToken q a], ⟨[], rfl, ?_⟩, hemit h⟩
    rw [if_neg hd]

theorem forM_attributeHelper_ok {v : Work} (hline : m.line = q.tag.line)
    (attributes : List Attribute) {w w' : Work}
    (h : attributes.forM (attributeHelper p m q) w = .ok ((), w')) :
    ∃ parts, List.Forall₂ (p.IsAttributePart v q) attributes parts
      ∧ w' = { w with
          tokens := parts.reverse.flatten ++ w.tokens
          root := w.root.modifyTag (fun t => { t with attributes := t.attributes.filter (fun b =>
            !attributes.any fun a => b.name.isSame a.name) }) m.address } := by
  induction attributes generalizing w with
  | nil =>
    obtain rfl := forM_nil_ok h
    refine ⟨[], .nil, ?_⟩
    simp only [List.reverse_nil, List.flatten_nil, List.nil_append, List.any_nil, Bool.not_false,
      List.filter_true]
    rw [Element.modifyTag, Element.replaceAt_id]
  | cons a attributes ih =>
    obtain ⟨mid, ha, h⟩ := forM_cons_ok h
    obtain ⟨part, hpart, rfl⟩ := attributeHelper_ok (v := v) hline ha
    obtain ⟨parts, hparts, rfl⟩ := ih h
    refine ⟨part :: parts, .cons hpart hparts, ?_⟩
    simp only [List.reverse_cons, List.flatten_append, List.flatten_singleton, List.append_assoc,
      Element.modifyTag_modifyTag, List.filter_filter, List.any_cons, Bool.not_or]
    simp only [Bool.and_comm]

theorem placeAt_eq {w w' : Work} {r : Place} (h : placeAt m.address w = .ok (r, w'))
    (hm : m.address = q.address)
    (hl : w.root.locate [] q.address = some (q.above, q.element)) : r = q ∧ w' = w := by
  obtain ⟨rfl, ha, hr⟩ := placeAt_ok h
  obtain ⟨address, above, element⟩ := r
  rw [hm, hl] at hr
  cases hr
  obtain ⟨address', above', element'⟩ := q
  cases ha
  cases hm
  exact ⟨rfl, rfl⟩

theorem attributeHelpers_ok {v w w' : Work} (hm : m.address = q.address)
    (hline : m.line = q.tag.line)
    (hl : w.root.locate [] q.address = some (q.above, q.element))
    (h : attributeHelpers p m w = .ok ((), w')) :
    ∃ parts, List.Forall₂ (p.IsAttributePart v q) (p.selector.helperAttributes q.tag) parts
      ∧ w' = { w with
          tokens := parts.flatten ++ w.tokens
          root := w.root.modifyTag p.selector.plainTag q.address } := by
  obtain ⟨r, mid, hr, hrest⟩ := bind_ok h
  obtain ⟨rfl, rfl⟩ := placeAt_eq hr hm hl
  obtain ⟨parts, hparts, rfl⟩ := forM_attributeHelper_ok (v := v) hline _ hrest
  refine ⟨parts.reverse, ?_, ?_⟩
  · have hrev := List.rel_reverse hparts
    rwa [List.reverse_reverse] at hrev
  · have htag : (fun e : Element => { e with tag := { e.tag with
          attributes := e.tag.attributes.filter (fun b =>
            !(p.selector.helperAttributes r.tag).reverse.any fun a => b.name.isSame a.name) } })
          r.element
        = { r.element with tag := p.selector.plainTag r.element.tag } := by
      have hfilter := p.selector.filter_isSame_helperAttributes r.element.tag
      simp only [List.any_reverse]
      rw [Selector.plainTag, ← hfilter]
      rfl
    rw [hm]
    congr 1
    exact Element.replaceAt_congr hl htag

theorem elementHelper_ok {v w w' : Work} (hm : m.address = q.address)
    (hid : m.id = p.idAt q.address) (hpath : m.path = p.pathAt q.address)
    (hline : m.line = q.tag.line)
    (hl : w.root.locate [] q.address = some (q.above, q.element))
    (hv : { v with tokens := w.tokens } = w)
    (h : elementHelper p m w = .ok ((), w')) :
    ∃ part, p.IsElementPart v q part ∧ w' = { w with tokens := part ++ w.tokens } := by
  obtain ⟨r, mid, hr, hrest⟩ := bind_ok h
  obtain ⟨rfl, rfl⟩ := placeAt_eq hr hm hl
  by_cases hu : r.tag.name.isIn p.selector.uris = true
  · rw [if_pos hu] at hrest
    obtain ⟨_, mid', hs, hemit⟩ := bind_ok hrest
    obtain ⟨ts, hts, rfl⟩ := emitSites_ok p hs hv
    obtain rfl := emit_ok hemit
    refine ⟨p.elementHelperToken r :: ts, ?_, ?_⟩
    · rw [Pass.IsElementPart, if_pos hu]
      exact ⟨ts, rfl, hts⟩
    · rw [hid, hpath, hline]
      rfl
  · rw [if_neg hu] at hrest
    obtain ⟨-, rfl⟩ := pure_ok hrest
    refine ⟨[], ?_, rfl⟩
    rw [Pass.IsElementPart, if_neg hu]

end Working

end Helpers

section Step

variable {p : Pass} {root : Element} {nodes done : List Place} {q : Place}

/-- When a node comes up: the nodes inside it are done, and no node around it is. -/
structure Pass.Due (nodes done : List Place) (q : Place) : Prop where
  mem : q ∈ nodes
  old : ∀ r ∈ done, r ∈ nodes
  above : ∀ r ∈ done, ¬r.address <+: q.address
  below : ∀ r ∈ nodes, q.address <+: r.address → r.address ≠ q.address → r ∈ done

theorem Pass.Due.mem_places (h : Pass.Due nodes done q) (hnodes : nodes = p.selector.nodes root) :
    q ∈ root.places := by
  have hq := h.mem
  rw [hnodes] at hq
  exact Selector.mem_places_of_mem_nodes hq

theorem Pass.Due.placeholders_eq_none (h : Pass.Due nodes done q) {c : Address}
    (hc : c <+: q.address) : p.placeholders done c = none :=
  Pass.placeholders_eq_none fun r hr he => h.above r hr (he ▸ hc)

theorem Pass.Due.locate (h : Pass.Due nodes done q) (hnodes : nodes = p.selector.nodes root) :
    (p.workAfter root nodes done).root.locate [] q.address
      = some (q.above, (p.found nodes q).element) := by
  have happart : Place.Apart nodes := hnodes ▸ Place.apart_nodes p.selector root
  have hcut : (p.workAfter root nodes done).root.locate [] q.address
      = some (q.above, q.element.cut (p.placeholders done) ([] ++ q.address)) :=
    locate_cut (mem_places_iff.1 (h.mem_places hnodes)) fun _ _ hc => h.placeholders_eq_none hc
  have hsame : q.element.cut (p.placeholders done) q.address = (p.found nodes q).element := by
    refine Element.cut_congr (fun b hb hne => ?_) q.element
    refine Pass.placeholders_congr happart h.old fun r hr hrb => ?_
    subst hrb
    exact h.below r hr hb hne
  rw [← hsame]
  exact hcut

theorem Pass.Due.locate_view (h : Pass.Due nodes done q) (hnodes : nodes = p.selector.nodes root) :
    (p.workOn root nodes done q).root.locate [] q.address
      = some (q.above, (p.view nodes q).element) := by
  rw [Pass.workOn, Element.modifyTag, Element.locate_replaceAt]
  exact congrArg (Option.map fun x =>
    (x.1, { x.2 with tag := p.selector.plainTag x.2.tag })) (h.locate hnodes)

theorem Working.leavePlaceholder_ok {m : Marker} {w w' : Work} {e : Element}
    (hm : m.address = q.address) (hid : m.id = p.idAt q.address)
    (hl : w.root.locate [] q.address = some (q.above, e))
    (h : leavePlaceholder p m w = .ok ((), w')) :
    q.address = [] ∧ w' = w ∨ ∃ b k x, q.address = b ++ [k]
      ∧ p.policy.newPlaceholder q.above (p.idAt q.address) = .ok x
      ∧ w' = { w with root := w.root.modifyChildren (replaced x k) b } := by
  rw [leavePlaceholder] at h
  cases hlast : q.address.getLast? with
  | none =>
    simp only [hm, hlast] at h
    exact .inl ⟨List.getLast?_eq_none_iff.1 hlast, (pure_ok h).2⟩
  | some k =>
    simp only [hm, hlast] at h
    obtain ⟨b, hb⟩ := List.getLast?_eq_some_iff.1 hlast
    obtain ⟨r, mid, hr, hrest⟩ := bind_ok h
    obtain ⟨rfl, -, hrl⟩ := placeAt_ok hr
    obtain ⟨x, mid', hnew, hmodify⟩ := bind_ok hrest
    obtain ⟨hx, rfl⟩ := ofExcept_ok hnew
    have habove : q.above = r.above :=
      congrArg Prod.fst (Option.some.inj (hl.symm.trans hrl))
    refine .inr ⟨b, k, x, hb, ?_, ?_⟩
    · rw [habove, ← hid]
      exact hx
    · rw [modify_ok hmodify, hb, List.dropLast_concat]

theorem Pass.Due.leave (h : Pass.Due nodes done q) (hnodes : nodes = p.selector.nodes root)
    {b : Address} {k : Nat} {x : Element} (hb : q.address = b ++ [k])
    (hx : p.policy.newPlaceholder q.above (p.idAt q.address) = .ok x) :
    (p.workOn root nodes done q).root.modifyChildren (Working.replaced x k) b
      = root.cut (p.placeholders (q :: done)) [] := by
  have hl := mem_places_iff.1 (h.mem_places hnodes)
  rw [hb] at hl
  rw [Pass.workOn, hb, Element.modifyTag, Working.modifyChildren_replaced_replaceAt]
  refine Element.modifyChildren_cut hl (fun c _ hc => h.placeholders_eq_none (hb ▸ hc)) ?_ ?_
  · rw [List.nil_append, ← hb, Pass.placeholders]
    simp [hx, Except.toOption]
  · intro d hd
    rw [List.nil_append, ← hb] at hd
    rw [Pass.placeholders, Pass.placeholders, List.find?_cons_of_neg]
    simpa using Ne.symm hd

/-- What work on one node does: the tokens of its block come in front, and the document has a
placeholder in its place. -/
theorem Working.node_ok (hnodes : nodes = p.selector.nodes root) (hdue : Pass.Due nodes done q)
    {ts : List Token} {w' : Work}
    (h : node p (p.markerOf nodes q) { p.workAfter root nodes done with tokens := ts }
      = .ok ((), w')) :
    ∃ b : Block, b.place = q ∧ p.Describes root nodes done b
      ∧ w'.tokens = p.blockTokens nodes b ++ ts
      ∧ (q.address ≠ [] →
          w' = { p.workAfter root nodes (q :: done) with tokens := w'.tokens }) := by
  have hl := hdue.locate hnodes
  -- From the second step on, only the tokens change until the placeholder comes.
  obtain ⟨r, w₀, hbefore, h₁⟩ := bind_ok h
  obtain ⟨rfl, rfl⟩ := placeAt_eq (q := p.found nodes q) hbefore rfl hl
  obtain ⟨_, w₁, hkeep, h₂⟩ := bind_ok h₁
  obtain rfl := modify_ok hkeep
  obtain ⟨_, w₂, hattributes, h₃⟩ := bind_ok h₂
  obtain ⟨parts, hparts, hw₂⟩ := attributeHelpers_ok (q := p.found nodes q)
    (v := p.workOn root nodes done q) rfl rfl (by exact hl) hattributes
  replace hw₂ : w₂ = { p.workOn root nodes done q with tokens := parts.flatten ++ ts } := hw₂
  have hview := hdue.locate_view hnodes
  generalize hv : p.workOn root nodes done q = v at *
  subst hw₂
  obtain ⟨_, w₃, helement, h₄⟩ := bind_ok h₃
  obtain ⟨part, hpart, rfl⟩ := elementHelper_ok (q := p.view nodes q) (v := v)
    rfl rfl rfl rfl (by exact hview) rfl helement
  obtain ⟨_, w₄, hshield, h₅⟩ := bind_ok h₄
  obtain ⟨-, rfl⟩ := ofExcept_ok hshield
  obtain ⟨r, w₅, hafter, h₆⟩ := bind_ok h₅
  obtain ⟨rfl, rfl⟩ := placeAt_eq (q := p.view nodes q) hafter rfl (by exact hview)
  obtain ⟨_, w₆, hown, h₇⟩ := bind_ok h₆
  obtain ⟨sites, hsites, rfl⟩ := emitSites_ok p (v := v) hown rfl
  obtain ⟨previous, w₇, hprevious, h₈⟩ := bind_ok h₇
  obtain rfl := (reads_previous? p _).eq hprevious
  obtain ⟨next, w₈, hnext, h₉⟩ := bind_ok h₈
  obtain rfl := (reads_next? p _).eq hnext
  obtain ⟨children, w₉, hchildren, h₁₀⟩ := bind_ok h₉
  obtain rfl := (reads_children p _).eq hchildren
  obtain ⟨_, w₁₀, hemit, h₁₁⟩ := bind_ok h₁₀
  obtain rfl := emit_ok hemit
  obtain ⟨_, w₁₁, hdone, h₁₂⟩ := bind_ok h₁₁
  obtain rfl := modify_ok hdone
  have hleave := leavePlaceholder_ok (q := q) rfl rfl (by exact hview) h₁₂
  refine ⟨⟨q, previous, next, children, sites, part, parts.flatten⟩, rfl, ?_, ?_, ?_⟩
  · subst hv
    refine ⟨⟨parts, hparts, rfl⟩, hpart, hsites, ?_, ?_, ?_, ?_⟩
    · exact gives_of_ok (reads_previous? p _) hprevious rfl
    · exact gives_of_ok (reads_next? p _) hnext rfl
    · exact gives_of_ok (reads_children p _) hchildren rfl
    · intro hne
      rcases hleave with ⟨hnil, -⟩ | ⟨b, k, x, -, hx, -⟩
      · exact absurd hnil hne
      · exact ⟨x, hx⟩
  · rw [Pass.blockTokens_append]
    rcases hleave with ⟨-, rfl⟩ | ⟨b, k, x, -, -, rfl⟩
    · rfl
    · rfl
  · intro hne
    rcases hleave with ⟨hnil, -⟩ | ⟨b, k, x, hb, hx, rfl⟩
    · exact absurd hnil hne
    · have hroot := hdue.leave hnodes hb hx
      subst hv
      simp only [hroot]
      rfl

end Step

end TemplateLexer
