import TemplateLexer.Proofs.FilledTags
import TemplateLexer.Proofs.Lossless
import TemplateLexer.Proofs.StandInNumbers
/-!
Elements in the content of expressions. An element comes with all declarations in force, and in it
placeholders stand for the nodes that have left. A node that stands in an expression itself comes as
it was kept when work on it began: nodes inside it had left by then, and it only carries the
declarations that it uses.
-/

set_option autoImplicit false

namespace TemplateLexer

open Markup

section Children

/-- The places of the elements among some nodes; `index` counts the children before them. -/
def Markup.childPlaces (a : Address) (tags : List Tag) (index : Nat) : List Node → List Place
  | [] => []
  | n :: rest =>
    (n.element?.map fun e => ⟨a ++ [index], tags, e⟩).toList
      ++ childPlaces a tags (if n.isCharacters then index else index + 1) rest

/-- The places of the elements right inside an element. -/
def Markup.Place.children (r : Place) : List Place :=
  childPlaces r.address r.tags 0 r.element.children

variable {a : Address} {tags : List Tag} {index : Nat} {nodes : List Node} {ph : Placeholders}

theorem Markup.Node.element?_of_isCharacters {n : Node} (h : n.isCharacters = true) :
    n.element? = none := by
  cases n with
  | text _ | cdata _ => rfl
  | element _ _ | comment _ | instruction _ _ | reference _ => cases h

theorem Markup.mem_childPlaces_iff {c : Place} : c ∈ childPlaces a tags index nodes ↔
    ∃ k, (items nodes)[k]? = some c.element.node ∧ c.address = a ++ [index + k]
      ∧ c.above = tags := by
  induction nodes generalizing index with
  | nil => simp [childPlaces, items]
  | cons n rest ih =>
    rw [childPlaces, List.mem_append, items_cons]
    cases hn : n.isCharacters with
    | true =>
      simp [Node.element?_of_isCharacters hn, ih]
    | false =>
      have hfirst : c ∈ (n.element?.map fun e => (⟨a ++ [index], tags, e⟩ : Place)).toList
          ↔ n = c.element.node ∧ c.address = a ++ [index] ∧ c.above = tags := by
        cases n with
        | element tag children =>
          obtain ⟨address, above, e⟩ := c
          simp only [Node.element?, Option.map_some, Option.toList_some, List.mem_singleton,
            Place.mk.injEq, Element.node, Node.element.injEq]
          constructor
          · rintro ⟨rfl, rfl, rfl⟩
            exact ⟨⟨rfl, rfl⟩, rfl, rfl⟩
          · rintro ⟨⟨rfl, rfl⟩, rfl, rfl⟩
            exact ⟨rfl, rfl, rfl⟩
        | comment _ | instruction _ _ | reference _ => simp [Node.element?, Element.node]
        | text _ | cdata _ => cases hn
      rw [hfirst, if_neg (by simp), if_neg (by simp), ih]
      constructor
      · rintro (⟨rfl, ha, htags⟩ | ⟨k, hk, ha, htags⟩)
        · exact ⟨0, rfl, ha, htags⟩
        · exact ⟨k + 1, hk, by rw [ha]; congr 2; omega, htags⟩
      · rintro ⟨k, hk, ha, htags⟩
        cases k with
        | zero => exact .inl ⟨Option.some.inj hk, ha, htags⟩
        | succ k => exact .inr ⟨k, hk, by rw [ha]; congr 2; omega, htags⟩

theorem Markup.Place.mem_children_iff {root : Element} {r c : Place} (hr : r ∈ root.places) :
    c ∈ r.children ↔ c ∈ root.places ∧ ∃ k, c.address = r.address ++ [k] := by
  rw [children, mem_childPlaces_iff]
  constructor
  · rintro ⟨k, hk, ha, habove⟩
    rw [Nat.zero_add] at ha
    exact ⟨(mem_places_concat_iff (mem_places_iff.1 hr) ha).2 ⟨habove, hk⟩, k, ha⟩
  · rintro ⟨hc, k, ha⟩
    obtain ⟨habove, hk⟩ := (mem_places_concat_iff (mem_places_iff.1 hr) ha).1 hc
    exact ⟨k, hk, by rwa [Nat.zero_add], habove⟩

theorem filterMap_element?_cutNodes (tags : List Tag) :
    (items (cutNodes ph a index nodes)).filterMap Node.element?
      = (childPlaces a tags index nodes).map fun c =>
          (ph c.address).getD (c.element.cut ph c.address) := by
  induction nodes generalizing index with
  | nil => simp [childPlaces, items]
  | cons n rest ih =>
    rw [childPlaces, List.map_append]
    cases hn : n.isCharacters with
    | true =>
      rw [cutNodes_text hn, items_cons, if_pos hn, Node.element?_of_isCharacters hn, ih]
      rfl
    | false =>
      cases hs : ph.standsFor (a ++ [index]) n with
      | some e =>
        obtain ⟨helement, hph⟩ := Placeholders.of_standsFor hs
        rw [cutNodes_standing hs, items_cons, items_joinFront]
        cases n with
        | element tag children =>
          simp [Element.node, Node.isCharacters, Node.element?, ih, hph]
        | text _ | cdata _ | comment _ | instruction _ _ | reference _ => cases helement
      | none =>
        have hself : n.isElement = false → cutNode ph (a ++ [index]) n = n := by
          cases n <;> simp [cutNode, Node.isElement]
        rw [cutNodes_staying hn hs, items_cons, isCharacters_cutNode, hn]
        cases n with
        | element tag children =>
          have hph : ph (a ++ [index]) = none := by
            rw [Placeholders.standsFor] at hs
            exact hs
          simp [cutNode, Node.element?, ih, hph, Element.cut]
        | comment _ | instruction _ _ | reference _ =>
          rw [hself rfl, if_neg (by simp), if_neg (by simp), List.filterMap_cons_none rfl, ih]
          rfl
        | text _ | cdata _ => cases hn

end Children

section Tokens

/-- The markup of an element in an expression. -/
def ContentToken.element? (t : ContentToken) : Option String :=
  if t.kind = .expressionElement then some t.value else none

theorem Token.body_of_contentSite? {t : Token} {f : SiteFields} (h : t.contentSite? = some f) :
    t.body = .site f := by
  cases hbody : t.body with
  | site g =>
    rw [contentSite?, hbody] at h
    simp only [Option.ite_none_right_eq_some, Option.some.injEq] at h
    rw [h.2]
  | property _ | node _ | helper _ => simp [contentSite?, hbody] at h

/-- The element that an item is. -/
def Content.Item.element? (children : List Node) : Item → Option Element
  | .child index => (Markup.items children)[index]?.bind Node.element?
  | .text _ | .cdata _ => none

namespace SiteContent

/-- The markup of the elements so far. -/
def elements (c : SiteContent) : List String := c.tokens.reverse.filterMap ContentToken.element?

theorem elements_addToken (t : ContentToken) (ts : List ContentToken) :
    (addToken t ts).reverse.filterMap ContentToken.element?
      = ts.reverse.filterMap ContentToken.element? ++ t.element?.toList := by
  have hone : [t].filterMap ContentToken.element? = t.element?.toList := by
    cases h : t.element? <;> simp [h]
  cases ts with
  | nil => exact hone
  | cons last rest =>
    rw [addToken]
    split
    · rename_i hchars
      simp [ContentToken.element?, hchars.1, hchars.2]
    · rw [List.reverse_cons, List.filterMap_append, hone]

theorem elements_foldl_addToken (runs : List Run) (ts : List ContentToken) :
    (runs.foldl (fun ts r => addToken ⟨r.kind.tokenKind, r.line, r.value⟩ ts) ts).reverse.filterMap
        ContentToken.element?
      = ts.reverse.filterMap ContentToken.element? := by
  induction runs generalizing ts with
  | nil => rfl
  | cons r runs ih =>
    have hnone : (⟨r.kind.tokenKind, r.line, r.value⟩ : ContentToken).element? = none := by
      cases hkind : r.kind <;> simp [ContentToken.element?, RunKind.tokenKind]
    rw [List.foldl_cons, ih, elements_addToken, hnone]
    exact List.append_nil _

theorem elements_addText (c : SiteContent) (s : String) : (c.addText s).elements = c.elements :=
  elements_foldl_addToken _ _

theorem elements_addMarkup (c : SiteContent) (kind : TokenKind) (markup : String) :
    (c.addMarkup kind markup).elements
      = c.elements ++ if kind = .expressionElement then [markup] else [] := by
  rw [elements, addMarkup, elements_addToken, ContentToken.element?]
  split <;> rfl

end SiteContent

end Tokens

namespace Working

variable {p : Pass} {owner place : Place} {w w' : Work}

theorem addItem_elements {c c' : SiteContent} {item : Content.Item}
    (h : addItem p owner c item w = .ok (c', w')) :
    ∃ vs, c'.elements = c.elements ++ vs
      ∧ List.Forall₂ (fun e v => embedded p owner e w = .ok (v, w'))
          (item.element? owner.element.children).toList vs := by
  obtain ⟨rfl, hadds⟩ := adds_of_addItem h
  cases hadds with
  | text s => exact ⟨[], by simp [SiteContent.elements_addText], .nil⟩
  | cdata markup => exact ⟨[], by simp [SiteContent.elements_addMarkup], .nil⟩
  | directive item _ =>
    rw [Content.Item.element?, item]
    exact ⟨[], by simp, .nil⟩
  | comment item _ | instruction item =>
    rw [Content.Item.element?, item]
    exact ⟨[], by simp [SiteContent.elements_addMarkup], .nil⟩
  | reference item =>
    rw [Content.Item.element?, item]
    exact ⟨[], by simp [SiteContent.elements_addText], .nil⟩
  | @element _ _ _ markup item made =>
    rw [Content.Item.element?, item]
    exact ⟨[markup], by simp [SiteContent.elements_addMarkup], .cons made .nil⟩

theorem addItems_elements {items : List Content.Item} {c c' : SiteContent}
    (h : items.foldlM (addItem p owner) c w = .ok (c', w')) :
    ∃ vs, c'.elements = c.elements ++ vs
      ∧ List.Forall₂ (fun e v => embedded p owner e w = .ok (v, w))
          (items.filterMap (Content.Item.element? owner.element.children)) vs := by
  induction items generalizing c with
  | nil =>
    obtain ⟨rfl, -⟩ := pure_ok h
    exact ⟨[], by simp, .nil⟩
  | cons item items ih =>
    rw [List.foldlM_cons] at h
    obtain ⟨next, mid, hitem, hrest⟩ := bind_ok h
    obtain rfl := (reads_addItem p owner c item).eq hitem
    obtain ⟨vs, hvs, hfirst⟩ := addItem_elements hitem
    obtain ⟨us, hus, hothers⟩ := ih hrest
    refine ⟨vs ++ us, by rw [hus, hvs, List.append_assoc], ?_⟩
    have hitems : (item :: items).filterMap (Content.Item.element? owner.element.children)
        = (item.element? owner.element.children).toList
          ++ items.filterMap (Content.Item.element? owner.element.children) := by
      cases hnone : item.element? owner.element.children <;> simp [hnone]
    rw [hitems]
    exact List.rel_append hfirst hothers

theorem contentSite_elements {t : Token} (h : contentSite p place w = .ok (t, w')) :
    ∃ f, t.contentSite? = some f
      ∧ List.Forall₂ (fun e v => embedded p place e w = .ok (v, w))
          ((Content.items place.element).filterMap
            (Content.Item.element? place.element.children))
          (f.content.filterMap ContentToken.element?) := by
  obtain ⟨c, mid, hitems, htoken⟩ := bind_ok h
  obtain ⟨vs, hvs, hall⟩ := addItems_elements hitems
  have hcontent : vs = c.tokens.reverse.filterMap ContentToken.element? := hvs.symm
  have ht := (ofExcept_ok htoken).1
  rw [SiteContent.token] at ht
  split at ht
  · cases ht
    exact ⟨_, rfl, hcontent ▸ hall⟩
  · cases ht

end Working

namespace Content

variable {children nodes : List Node}

theorem element?_textItems (front : List Char) :
    (textItems front).filterMap (Item.element? children) = [] := by
  rw [textItems]
  split <;> rfl

theorem mem_of_element?_item {items : List Item} {e : Element}
    (h : e ∈ items.filterMap (Item.element? children)) :
    e ∈ (Markup.items children).filterMap Node.element? := by
  obtain ⟨item, -, he⟩ := List.mem_filterMap.1 h
  cases item with
  | text _ | cdata _ => cases he
  | child index =>
    obtain ⟨n, hn, he⟩ := Option.bind_eq_some_iff.1 he
    exact List.mem_filterMap.2 ⟨n, List.mem_of_getElem? hn, he⟩

theorem element?_itemsOf {before : List Node}
    (hnumbers : ∀ k n, (Markup.items children)[k]? = some n → standInNumber k n = k)
    (h : Markup.items children = before ++ Markup.items nodes) (front : List Char) :
    (itemsOf before.length front nodes).filterMap (Item.element? children)
      = (Markup.items nodes).filterMap Node.element? := by
  induction nodes generalizing before front with
  | nil => rw [itemsOf, element?_textItems]; rfl
  | cons n rest ih =>
    cases hn : n.isCharacters with
    | true =>
      have hrest : Markup.items children = before ++ Markup.items rest := by
        rwa [items_cons, if_pos hn] at h
      rw [items_cons, if_pos hn]
      cases n with
      | text s => rw [itemsOf, ih hrest]
      | cdata s =>
        rw [itemsOf, List.filterMap_append, element?_textItems, List.filterMap_cons_none rfl,
          ih hrest, List.nil_append]
      | element _ _ | comment _ | instruction _ _ | reference _ => cases hn
    | false =>
      have hrest : Markup.items children = (before ++ [n]) ++ Markup.items rest := by
        rw [items_cons, if_neg (by simp [hn])] at h
        simpa using h
      have hitem : (Markup.items children)[before.length]? = some n := by simp [hrest]
      have hread : Item.element? children (.child (standInNumber before.length n))
          = n.element? := by
        rw [hnumbers _ _ hitem, Item.element?, hitem, Option.bind_some]
      have hlater := ih hrest []
      rw [List.length_append, List.length_singleton] at hlater
      rw [itemsOf_child hn, List.filterMap_append, element?_textItems, List.nil_append,
        items_cons, if_neg (by simp [hn]), List.filterMap_cons, List.filterMap_cons, hread, hlater]

theorem element?_items {e : Element} (hplain : ∀ n ∈ e.children, n.IsPlain)
    (hclear : ∀ n ∈ e.children, isClear n = true)
    (hnumbers : ∀ k n, (Markup.items e.children)[k]? = some n → standInNumber k n = k) :
    (items e).filterMap (Item.element? e.children)
      = (Markup.items e.children).filterMap Node.element? := by
  rw [items_eq hplain hclear]
  exact element?_itemsOf hnumbers (List.nil_append _).symm []

section Placeholders

theorem customaryQualifier_mem {uri q : String} (h : customaryQualifier uri = some q) :
    q ∈ ["html", "xsl", "rdf", "wsdl", "xs", "xsi", "dc", "ns0"] := by
  rw [customaryQualifier.eq_def] at h
  split at h <;> cases h <;> decide

theorem number?_of_mem_nameBelow (tags : List Tag) (uri : Option String) (base : String) :
    ∀ d ∈ (nameBelow tags uri base).2, d.number? = none := by
  intro d hd
  cases uri with
  | none => cases hd
  | some u =>
    rw [nameBelow] at hd
    split at hd
    · cases hd
    · split at hd
      · cases hd
      · cases List.mem_singleton.1 hd
        have hq : (customaryQualifier u).getD "ns0"
            ∈ ["html", "xsl", "rdf", "wsdl", "xs", "xsi", "dc", "ns0"] := by
          cases hcustom : customaryQualifier u with
          | none => decide
          | some q => exact customaryQualifier_mem hcustom
        simp only [List.mem_cons, List.not_mem_nil, or_false] at hq
        rcases hq with hq | hq | hq | hq | hq | hq | hq | hq <;>
          simp [Declaration.number?, Declaration.name, hq]

theorem standInNumber_newPlaceholder {policy : Policy} {above : List Tag} {id : String}
    {e : Element} (h : policy.newPlaceholder above id = .ok e) (index : Nat) :
    standInNumber index e.node = index := by
  have hnone : ∀ d ∈ e.tag.declarations, d.number? = none := by
    obtain ⟨s, uri, base, -, -, rfl⟩ := Policy.newPlaceholder_ok h
    exact number?_of_mem_nameBelow above uri base
  rw [Element.node, standInNumber_element index (Policy.isPlain_newPlaceholder h),
    List.findSome?_eq_none_iff.2 hnone, Option.getD_none]

end Placeholders

end Content

namespace Outline

variable (o : Outline)

/-- The placeholders that nodes leave. -/
def placeholders : Placeholders := fun a =>
  ((o.selector.nodes o.root).find? (·.address == a)).bind fun q =>
    (o.selector.policy.newPlaceholder q.above (o.idAt a)).toOption

/-- An element with placeholders for the nodes inside it. -/
def found (q : Place) : Element := q.element.cut o.placeholders q.address

/-- The markup that an expression has for an element in it. Only what was kept of a node is apart
from the document type, and never written as hypertext. -/
structure IsMarkupOf (hypertext : Bool) (c : Place) (v : String) : Prop where
  /-- An element without nodes comes as it is in the document. -/
  verbatim : (∀ n ∈ o.selector.nodes o.root, ¬c.address <+: n.address) →
    v = (c.element.alone c.above).markupIn hypertext
  /-- In other elements nodes have left placeholders. -/
  plain : c ∉ o.selector.nodes o.root → v = ((o.found c).alone c.above).markupIn hypertext
  /-- What was kept of a node is looked up by its id, where the policy knows placeholders again. -/
  node : c ∈ o.selector.nodes o.root →
    ∃ e, o.selector.policy.newPlaceholder c.above (o.idAt c.address) = .ok e
      ∧ if o.selector.policy.isPlaceholder e.tag then
          ∃ n ∈ o.selector.nodes o.root, o.idAt n.address = o.idAt c.address
            ∧ v = ((o.found n).detached n.above).print
        else v = (e.alone c.above).markupIn hypertext

/-- What the site of the content of an element says of the elements in it. They come in order where
no section spells a stand-in and no declaration hides the number of one. -/
structure Embeds (hypertext : Bool) (r : Place) (f : SiteFields) : Prop where
  id : f.id = o.idAt r.address
  path : f.path = o.pathAt r.address
  elements : ∀ v ∈ f.content.filterMap ContentToken.element?,
    ∃ c ∈ r.children, o.IsMarkupOf hypertext c v
  order : (∀ n ∈ r.element.children, Content.isClear n = true) →
    (∀ c ∈ r.children, c ∉ o.selector.nodes o.root → ∀ k, c.address = r.address ++ [k] →
      Content.standInNumber k c.element.node = k) →
    List.Forall₂ (o.IsMarkupOf hypertext) r.children (f.content.filterMap ContentToken.element?)

theorem found_eq_self {o : Outline} {c : Place}
    (h : ∀ n ∈ o.selector.nodes o.root, c.address <+: n.address → n.address = c.address) :
    o.found c = c.element := by
  have hcut : c.element.cut o.placeholders c.address
      = c.element.cut (fun _ => none) c.address := by
    refine Element.cut_congr (fun b hb hne => ?_) c.element
    rw [placeholders, Option.bind_eq_none_iff]
    intro n hfind
    have ha : n.address = b := by simpa using List.find?_some hfind
    exact absurd (ha.symm.trans (h n (List.mem_of_find?_eq_some hfind) (ha ▸ hb))) hne
  rw [found, hcut, Element.cut_none fun _ => rfl]

end Outline

namespace Pass

variable {p : Pass} {policy : Policy} {root : Element} {nodes done : List Place}
  {q r c x : Place} {v : String} {w' : Work}

theorem Starts.placeholders_eq (hp : Starts policy root p) :
    p.placeholders (p.selector.nodes root) = (p.outline root).placeholders := by
  funext a
  have hall : (p.outline root).selector.nodes (p.outline root).root = p.selector.nodes root := rfl
  rw [placeholders, Outline.placeholders, hall]
  cases hfind : (p.selector.nodes root).find? (·.address == a) with
  | none => rfl
  | some n =>
    have ha : n.address = a := by simpa using List.find?_some hfind
    have hid := hp.idAt_eq (Selector.mem_places_of_mem_nodes (List.mem_of_find?_eq_some hfind))
    rw [ha] at hid
    rw [Option.bind_some, Option.bind_some, hid]
    rfl

theorem alone_congr {tags tags' : List Tag} (h : tags.map Tag.frame = tags'.map Tag.frame)
    (e : Element) : e.alone tags = e.alone tags' := by
  simp only [Element.alone, bindingsOf, binding?, bindings_congr h]

theorem id?_newPlaceholder {above : List Tag} {id : String} {e : Element}
    (h : policy.newPlaceholder above id = .ok e) : e.tag.id? = some id := by
  rw [Tag.id?, Tag.attribute?, Policy.attributes_newPlaceholder h]
  simp [Name.bare, Name.expanded, Attribute.plainValue, Attribute.valueWith, String.join]

theorem exists_of_lookup (kept : List Place) {nodes : List Place} {id : String} {e : Element}
    (h : (kept.map (p.intact nodes)).lookup id = some e) :
    ∃ n ∈ kept, p.idAt n.address = id ∧ e = (p.found nodes n).element.detached n.above := by
  obtain ⟨before, after, hsplit, -⟩ := List.lookup_eq_some_iff.1 h
  have hmem : (id, e) ∈ kept.map (p.intact nodes) := by simp [hsplit]
  obtain ⟨n, hn, he⟩ := List.mem_map.1 hmem
  simp only [intact, Prod.mk.injEq] at he
  exact ⟨n, hn, he.1, he.2.symm⟩

theorem isMarkupOf_embedded (hp : Starts policy root p) (hfills : p.Fills (p.selector.nodes root))
    (hlacks : c ∉ p.selector.nodes root → policy.isPlaceholder c.tag = false)
    (hr : r ∈ root.places) (hx : x.Resembles r) (hc : c ∈ r.children)
    (hq : q ∈ p.selector.nodes root)
    (hdone : ∀ n ∈ done, n ∈ p.selector.nodes root) {ts : List Token}
    (h : Working.embedded p x (p.standing (p.selector.nodes root) c).element
      { p.workOn root (p.selector.nodes root) done q with tokens := ts } = .ok (v, w')) :
    (p.outline root).IsMarkupOf p.hypertext c v := by
  obtain ⟨hmem, k, hk⟩ := (Place.mem_children_iff hr).1 hc
  obtain ⟨-, -, -, habove⟩ := mem_childPlaces_iff.1 hc
  have hfound : ∀ n, (p.found (p.selector.nodes root) n).element = (p.outline root).found n := by
    intro n
    rw [found, Outline.found, hp.placeholders_eq]
  have halone : ∀ e : Element, e.alone x.tags = e.alone c.above :=
    fun e => habove ▸ alone_congr hx.frames e
  have hspec := Working.embedded_ok h
  rw [halone, hp.policy_eq] at hspec
  have hpolicy : (p.outline root).selector.policy = policy := hp.isOf.policy
  have hall : (p.outline root).selector.nodes (p.outline root).root = p.selector.nodes root := rfl
  -- A node is told from what was kept of one, by the id on its placeholder.
  by_cases hnode : c ∈ p.selector.nodes root
  · obtain ⟨e, hnew, hstanding⟩ := exists_standing_of_mem (Place.apart_nodes p.selector root)
      hfills hnode (by simp [hk])
    rw [hp.policy_eq, hp.idAt_eq hmem] at hnew
    rw [hstanding] at hspec
    refine ⟨fun hnone => absurd List.prefix_rfl (hnone c hnode), fun hother => absurd hnode hother,
      fun _ => ⟨e, hpolicy ▸ hnew, ?_⟩⟩
    rw [hpolicy]
    split at hspec
    · rename_i hplaceholder
      obtain ⟨kept, hlookup, rfl⟩ := hspec
      rw [if_pos hplaceholder]
      rw [id?_newPlaceholder hnew, Option.getD_some] at hlookup
      obtain ⟨n, hn, hid, rfl⟩ := exists_of_lookup (q :: done) hlookup
      have hn : n ∈ p.selector.nodes root := by
        rcases List.mem_cons.1 hn with rfl | hn
        · exact hq
        · exact hdone n hn
      refine ⟨n, hn, ?_, by rw [hfound]⟩
      rw [← hid, hp.idAt_eq (Selector.mem_places_of_mem_nodes hn)]
    · rename_i hplaceholder
      rw [if_neg hplaceholder]
      exact hspec
  · have hother := Selector.address_ne_of_notMem hmem hnode
    rw [standing_eq_found hother] at hspec
    have hplain : policy.isPlaceholder (p.found (p.selector.nodes root) c).element.tag = false :=
      hlacks hnode
    rw [hplain, if_neg (by simp), hfound] at hspec
    refine ⟨fun hnone => ?_, fun _ => hspec, fun hmem => absurd hmem hnode⟩
    rw [hspec, Outline.found_eq_self fun n hn hpre => absurd hpre (hnone n hn)]

theorem standInNumber_shown (hfills : p.Fills (p.selector.nodes root))
    (hx : p.Shows (p.selector.nodes root) r x)
    (hnumbers : ∀ c ∈ r.children, c ∉ p.selector.nodes root → ∀ k, c.address = r.address ++ [k] →
      Content.standInNumber k c.element.node = k) (k : Nat) (n : Node)
    (hn : (Markup.items x.element.children)[k]? = some n) : Content.standInNumber k n = k := by
  rw [hx.children, getElem?_items_cutNodes, Nat.zero_add, Option.map_eq_some_iff] at hn
  obtain ⟨m, hm, rfl⟩ := hn
  split
  · rename_i e hstands
    obtain ⟨above, hnew⟩ := exists_newPlaceholder (Placeholders.of_standsFor hstands).2
    exact Content.standInNumber_newPlaceholder hnew k
  · rename_i hstays
    have hchild : m.isCharacters = false := by
      simpa using (List.mem_filter.1 (List.mem_of_getElem? hm)).2
    cases m with
    | element tag children =>
      have hc : (⟨r.address ++ [k], r.tags, ⟨tag, children⟩⟩ : Place) ∈ r.children :=
        mem_childPlaces_iff.2 ⟨k, hm, by rw [Nat.zero_add], rfl⟩
      have hother : (⟨r.address ++ [k], r.tags, ⟨tag, children⟩⟩ : Place)
          ∉ p.selector.nodes root := by
        intro hnode
        have hsome := (isSome_placeholders_iff (Place.apart_nodes p.selector root) hfills
          (by simp)).2 ⟨_, hnode, rfl⟩
        have hnone : p.placeholders (p.selector.nodes root) (r.address ++ [k]) = none := hstays
        rw [hnone] at hsome
        cases hsome
      rw [cutNode]
      exact hnumbers _ hc hother k rfl
    | comment _ | instruction _ _ | reference _ =>
      rw [cutNode]
      · exact Content.standInNumber_remark rfl rfl
      · simp
    | text _ | cdata _ => cases hchild

theorem resembles_of_shows (hp : Starts policy root p) (hfills : p.Fills (p.selector.nodes root))
    (hq : q ∈ p.selector.nodes root) (hr : r ∈ root.places)
    (hshows : p.Shows (p.selector.nodes root) r x)
    (hx : .contentOf x ∈ p.selector.nodeExpressions (p.view (p.selector.nodes root) q)) :
    x.Resembles r := by
  obtain ⟨_, -, hs⟩ := exists_of_forall₂ (showsSites_nodeExpressions hp hq (hfills.inside q)) hx
  cases hs with
  | inContent mem tag _ =>
    exact eq_of_mem_places mem hr (tag.address.symm.trans hshows.address) ▸ tag

theorem isClear_shown (hx : p.Shows nodes r x)
    (hclear : ∀ n ∈ r.element.children, Content.isClear n = true) :
    ∀ n ∈ x.element.children, Content.isClear n = true := by
  rw [hx.children]
  exact forall_mem_cutNodes (fun _ => rfl) (fun _ _ _ _ => rfl) (fun _ _ _ => rfl) _ _ hclear

theorem filterMap_element?_shown (hx : p.Shows nodes r x) :
    (Markup.items x.element.children).filterMap Node.element?
      = r.children.map fun c => (p.standing nodes c).element := by
  rw [hx.children, filterMap_element?_cutNodes r.tags]
  rfl

theorem forall₂_embedded (hfills : p.Fills (p.selector.nodes root)) (hplain : root.HoldsPlain)
    (hr : r ∈ root.places) (hshows : p.Shows (p.selector.nodes root) r x)
    (hclear : ∀ n ∈ r.element.children, Content.isClear n = true)
    (hnumbers : ∀ c ∈ r.children, c ∉ p.selector.nodes root → ∀ k, c.address = r.address ++ [k] →
      Content.standInNumber k c.element.node = k) {vs : List String} {w : Work}
    (hall : List.Forall₂ (fun e v => Working.embedded p x e w = .ok (v, w))
      ((Content.items x.element).filterMap (Content.Item.element? x.element.children)) vs) :
    List.Forall₂ (fun c v =>
      Working.embedded p x (p.standing (p.selector.nodes root) c).element w = .ok (v, w))
      r.children vs := by
  rwa [Content.element?_items (isPlain_shown hplain hr hshows) (isClear_shown hshows hclear)
    (standInNumber_shown hfills hshows hnumbers), filterMap_element?_shown hshows,
    List.forall₂_map_left_iff] at hall

/-- What a stream says of the elements in the content of an element. -/
theorem tellsContents_embeds (hp : Starts policy root p)
    (hfills : p.Fills (p.selector.nodes root)) (hplain : root.HoldsPlain)
    (hlacks : ∀ q ∈ root.places, policy.isPlaceholder q.tag = false) :
    p.TellsContents root ((p.outline root).Embeds p.hypertext) := by
  intro q hq done hdone r hr x hshows hx t hgives
  have htag := resembles_of_shows hp hfills hq hr hshows hx
  obtain ⟨ts, hsite⟩ := hgives
  obtain ⟨f, hf, hall⟩ := Working.contentSite_elements hsite
  have hbody := Token.body_of_contentSite? hf
  obtain ⟨hid, hpath, -⟩ := fields_of_outline hbody
    (congrArg Token.body (outline_contentOf hp hr htag ⟨ts, hsite⟩))
  have hmarkup : ∀ c ∈ r.children, ∀ v, Working.embedded p x
      (p.standing (p.selector.nodes root) c).element
        { p.workOn root (p.selector.nodes root) done q with tokens := ts }
        = .ok (v, { p.workOn root (p.selector.nodes root) done q with tokens := ts }) →
      (p.outline root).IsMarkupOf p.hypertext c v :=
    fun c hc v h => isMarkupOf_embedded hp hfills
      (fun _ => hlacks c ((Place.mem_children_iff hr).1 hc).1) hr htag hc hq hdone h
  refine ⟨f, hf, hid, hpath, fun v hv => ?_, fun hclear hnumbers => ?_⟩
  · obtain ⟨e, he, hembedded⟩ := exists_of_forall₂ hall hv
    have hmem := Content.mem_of_element?_item he
    rw [filterMap_element?_shown hshows] at hmem
    obtain ⟨c, hc, rfl⟩ := List.mem_map.1 hmem
    exact ⟨c, hc, hmarkup c hc v hembedded⟩
  · have hall' := forall₂_embedded hfills hplain hr hshows hclear hnumbers hall
    have hboth := (List.forall₂_and_left (p := fun c => c ∈ r.children) r.children _).2
      ⟨fun _ hc => hc, hall'⟩
    exact hboth.imp fun c v h => hmarkup c h.1 v h.2

end Pass

namespace Document

theorem markupIn_alone {d : Markup.Document} {c : Place}
    (h : ∀ t ∈ c.element.node.tags, t.SwitchesAlike d.items) :
    (c.element.alone c.above).markupIn d.isHypertext
      = String.ofList (d.printNode none (c.element.alone c.above).node) := by
  have hall : ∀ t ∈ c.element.tag :: tagsIn c.element.children, t.SwitchesAlike d.items := h
  obtain ⟨htag, hinside⟩ := List.forall_mem_cons.1 hall
  -- What an element binds by itself changes nothing but its declarations.
  exact Document.markupIn_eq_printNode (List.forall_mem_cons.2 ⟨htag, hinside⟩)

/-- The elements in the expressions of a stream, if none has the name of placeholders. One that is
no node and has none inside is written as it is in the document, unless a switch in it begins with a
reference to some text. -/
theorem lex_embedded {source : Source} {policy : Policy} {d : Markup.Document}
    {file : Option String} {stream : LexedStream} (hload : source.load file = .ok d)
    (hlacks : ∀ q ∈ d.root.places, policy.isPlaceholder q.tag = false)
    (h : (lex policy d file).run.1 = .ok stream) :
    ∃ o : Outline, o.IsOf policy d.root
      ∧ List.Forall₂ (o.Embeds d.isHypertext)
        ((byDepth (o.selector.nodes d.root)).flatMap
          (o.selector.contentSites d.root (o.selector.nodes d.root)))
        (stream.toList.filterMap Token.contentSite?)
      ∧ ∀ c ∈ d.root.places, (∀ n ∈ o.selector.nodes d.root, ¬c.address <+: n.address) →
        (∀ t ∈ c.element.node.tags, t.SwitchesAlike d.items) →
        ∀ v, o.IsMarkupOf d.isHypertext c v →
          v = String.ofList (d.printNode none (c.element.alone c.above).node) := by
  obtain ⟨p, blocks, hp, hhypertext, hblocks, hstream⟩ := lex_ok h
  refine ⟨p.outline d.root, hp.isOf, hhypertext ▸ Pass.contentSites_stream hp hblocks
    (Pass.tellsContents_embeds hp hblocks.fills (Source.holdsPlain_of_load hload) hlacks) hstream,
    fun c _ hwhole hswitches v hv => ?_⟩
  exact (hv.verbatim hwhole).trans (markupIn_alone hswitches)

/-- The source of a document with elements in expressions, one of them a node. -/
def sourceOfElements : Source :=
  .text "<r xmlns:x=\"urn:x\">{% a <b><i/></b> %}<x:n/></r>"

theorem lex_embedded_sample : ∃ d stream, sourceOfElements.load none = .ok d
    ∧ (∀ q ∈ d.root.places, Policy.standard.isPlaceholder q.tag = false)
    ∧ (lex .standard d none).run.1 = .ok stream
    ∧ ∃ o : Outline, o.IsOf .standard d.root ∧ List.Forall₂ (o.Embeds d.isHypertext)
      ((byDepth (o.selector.nodes d.root)).flatMap
        (o.selector.contentSites d.root (o.selector.nodes d.root)))
      (stream.toList.filterMap Token.contentSite?) := by
  have hlexes : (match sourceOfElements.load none with
      | .ok d => (lex .standard d none).run.1.isOk
        && d.root.places.all fun q => !Policy.standard.isPlaceholder q.tag
      | .error _ => false) = true := by
    decide +kernel
  split at hlexes
  · rename_i d hload
    rw [Bool.and_eq_true, List.all_eq_true] at hlexes
    obtain ⟨stream, h⟩ := Except.exists_of_isOk hlexes.1
    have hlacks : ∀ q ∈ d.root.places, Policy.standard.isPlaceholder q.tag = false := by
      simpa using hlexes.2
    obtain ⟨o, ho, hembeds, -⟩ := lex_embedded hload hlacks h
    exact ⟨d, stream, hload, hlacks, h, o, ho, hembeds⟩
  · cases hlexes

/-- The source of a document with a node in a node in an expression. -/
def sourceOfNested : Source :=
  .text "<r xmlns:x=\"urn:x\">{% a %}<x:o><x:n/></x:o></r>"

/-- The markup of a node in an expression has a placeholder where a node inside it was. -/
theorem lex_embedded_nested :
    (((sourceOfNested.load none).toOption.bind fun d =>
        (lex .standard d none).run.1.toOption.map fun stream =>
          (d.root.places.map fun q => (q.element.alone q.above).print,
            (stream.toList.filterMap Token.contentSite?).map fun f =>
              f.content.filterMap ContentToken.element?)))
      = some (["<r xmlns:x=\"urn:x\">\x7b% a %\x7d<x:o><x:n/></x:o></r>",
          "<x:o xmlns:x=\"urn:x\"><x:n/></x:o>", "<x:n xmlns:x=\"urn:x\"/>"],
        [["<x:o xmlns:x=\"urn:x\"><__N_-_O_-_D_-_E__ id=\"bbc537cf7aec94a386de0cade1472d64e11791d9\"/></x:o>"]]) := by
  decide +kernel

end Document

end TemplateLexer
