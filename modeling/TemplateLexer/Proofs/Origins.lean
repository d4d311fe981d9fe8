import TemplateLexer.Proofs.Sections

set_option autoImplicit false

namespace TemplateLexer

open Markup

namespace Pass

/-- The sites that a pass makes tokens of. They are outside shielded content. -/
inductive IsSite (p : Pass) (root : Element) : Site → Prop
  | inAttribute {r x : Place} {a : Attribute} (mem : r ∈ root.places)
      (above : r.above.any p.policy.shields = false) (tag : x.Resembles r)
      (own : a ∈ x.tag.attributes) (delimiter : hasDelimiter a.plainValue.toList = true) :
      IsSite p root (.attributeOf x a)
  | inContent {r x : Place} (mem : r ∈ root.places) (above : r.above.any p.policy.shields = false)
      (tag : x.Resembles r) (children : p.Shows (p.selector.nodes root) r x)
      (text : Selector.hasText x.element = true) : IsSite p root (.contentOf x)

/-- The tokens that come from the elements of a document. -/
inductive Tells (p : Pass) (root : Element) : Token → Prop
  | node {b : Block} (mem : b.place ∈ p.selector.nodes root) :
      Tells p root (p.nodeToken (p.selector.nodes root) b)
  | elementHelper {q : Place} (mem : q ∈ p.selector.nodes root)
      (name : q.tag.name.isIn p.selector.uris = true) :
      Tells p root (p.elementHelperToken (p.view (p.selector.nodes root) q))
  | attributeHelper {q : Place} {a : Attribute} (mem : q ∈ p.selector.nodes root)
      (own : a ∈ p.selector.helperAttributes q.tag) :
      Tells p root (p.attributeHelperToken q a)
  | site {s : Site} {w : Work} {t : Token} (site : p.IsSite root s)
      (gives : (Working.siteToken p s).Gives w t) : Tells p root t

variable {p : Pass} {policy : Policy} {root : Element} {nodes : List Place} {blocks : List Block}
  {q r x : Place} {s : Site} {w : Work} {t : Token}

theorem Starts.holdsDelimiter_eq (hp : Starts policy root p) (a : Attribute) :
    p.selector.holdsDelimiter a = hasDelimiter a.plainValue.toList :=
  Selector.holdsDelimiter_eq hp.isOf.expand a

theorem any_shields_above_node (h : q ∈ p.selector.nodes root) :
    q.above.any p.policy.shields = false := by
  obtain ⟨hq, hroot | hmarked⟩ := Selector.mem_nodes_iff.1 h
  · have hdepth : q.above.length = q.address.length := depth_of_mem_places hq
    rw [hroot, List.length_nil] at hdepth
    rw [List.eq_nil_of_length_eq_zero hdepth]
    rfl
  · rw [Selector.isMarked, Selector.exposed, Bool.and_eq_true, Bool.not_eq_true'] at hmarked
    exact hmarked.1

theorem fields_of_outline {f g : SiteFields} (hbody : t.body = .site f)
    (h : t.outline.body = .site g) :
    f.id = g.id ∧ f.path = g.path ∧ f.attributeName = g.attributeName := by
  rw [Token.outline, hbody] at h
  simp only [TokenBody.site.injEq] at h
  exact ⟨h ▸ rfl, h ▸ rfl, h ▸ rfl⟩

theorem Tells.exists_of_elementHelper (h : p.Tells root t) (hkind : t.kind = .elementHelper) :
    ∃ q ∈ root.places, t = p.elementHelperToken (p.view (p.selector.nodes root) q) := by
  cases h with
  | @node b mem =>
    rw [nodeToken] at hkind
    split at hkind <;> cases hkind
  | @elementHelper q mem name => exact ⟨q, Selector.mem_places_of_mem_nodes mem, rfl⟩
  | attributeHelper mem own => cases hkind
  | @site s w t hs hgives =>
    have hmark : t.outline.kind = .expression := by
      rw [outline_siteToken hgives, markToken]
      split <;> rfl
    exact absurd (hmark.symm.trans hkind) (by decide)

/-- The token of a site is that of the element that is shown there, as far as an outline tells. -/
theorem outline_attributeOf (hp : Starts policy root p) (hr : r ∈ root.places)
    (hx : x.Resembles r) {a : Attribute} (h : (Working.siteToken p (.attributeOf x a)).Gives w t) :
    t.outline = (p.outline root).site (.attributeOf r a) := by
  have hmark : (Site.attributeOf x a).mark = (Site.attributeOf r a).mark := by
    rw [Site.mark, Site.mark, hx.address, hx.line, qualifiedName_congr hx.frames]
  rw [outline_siteToken h, hmark, markToken_mark (s := .attributeOf r a) hp hr]

theorem outline_contentOf (hp : Starts policy root p) (hr : r ∈ root.places)
    (hx : x.Resembles r) (h : (Working.siteToken p (.contentOf x)).Gives w t) :
    t.outline = (p.outline root).site (.contentOf r) := by
  have hmark : (Site.contentOf x).mark = (Site.contentOf r).mark := by
    rw [Site.mark, Site.mark, hx.address, hx.line]
  rw [outline_siteToken h, hmark, markToken_mark (s := .contentOf r) hp hr]

theorem isSite_of_mem_sitesAt (hp : Starts policy root p) {s₀ : Site}
    (hshows : p.ShowsSite root s₀ s) {withAttributes : Bool}
    (hs : s ∈ p.selector.sitesAt withAttributes x) : p.IsSite root s := by
  rw [Selector.sitesAt] at hs
  split at hs
  · rename_i hexposed
    have habove : ∀ r, x.Resembles r → r.above.any p.policy.shields = false := by
      intro r htag
      rw [Selector.exposed, any_shields_congr p.selector.policy htag.frames, Place.tags,
        List.any_cons, Bool.not_or, Bool.and_eq_true, Bool.not_eq_true', Bool.not_eq_true']
        at hexposed
      exact hexposed.2
    rcases List.mem_append.1 hs with hs | hs
    · split at hs
      · rename_i htext
        rw [List.mem_singleton.1 hs] at hshows ⊢
        cases hshows with
        | inContent hr htag hx => exact .inContent hr (habove _ htag) htag hx htext
      · cases hs
    · split at hs
      · obtain ⟨a, ha, rfl⟩ := List.mem_map.1 hs
        obtain ⟨ha, hd⟩ := List.mem_filter.1 ha
        rw [hp.holdsDelimiter_eq] at hd
        cases hshows with
        | inAttribute hr htag => exact .inAttribute hr (habove _ htag) htag ha hd
      · cases hs
  · cases hs

theorem isSite_of_mem_nodeExpressions (hp : Starts policy root p)
    (hfills : p.Fills (p.selector.nodes root)) (hq : q ∈ p.selector.nodes root)
    (hs : s ∈ p.selector.nodeExpressions (p.view (p.selector.nodes root) q)) :
    p.IsSite root s := by
  obtain ⟨s₀, -, hshows⟩ := exists_of_forall₂
    (showsSites_nodeExpressions hp hq (hfills.inside q)) hs
  rcases List.mem_append.1 hs with hs | hs
  · exact isSite_of_mem_sitesAt hp hshows hs
  · obtain ⟨x, -, hs⟩ := List.mem_flatMap.1 hs
    exact isSite_of_mem_sitesAt hp hshows hs

theorem tells_of_forall₂ {sites : List Site} {ts : List Token}
    (h : List.Forall₂ (fun s t => (Working.siteToken p s).Gives w t) sites ts)
    (hsites : ∀ s ∈ sites, p.IsSite root s) : ∀ t ∈ ts, p.Tells root t := by
  intro t ht
  obtain ⟨s, hs, hgives⟩ := exists_of_forall₂ h ht
  exact .site (hsites s hs) hgives

theorem tells_of_mem_block (hp : Starts policy root p) (hblocks : p.Blocks root blocks) {b : Block}
    (hb : b ∈ blocks) (ht : t ∈ p.blockTokens (p.selector.nodes root) b) : p.Tells root t := by
  obtain ⟨_, _, -, hdescribes⟩ := hblocks.describes b hb
  have hnode := hblocks.mem_nodes hb
  have hmem := Selector.mem_places_of_mem_nodes hnode
  rcases List.mem_cons.1 ht with rfl | ht
  · exact .node hnode
  rw [List.mem_append, List.mem_append] at ht
  rcases ht with (ht | ht) | ht
  · exact tells_of_forall₂ hdescribes.sites
      (fun s hs => isSite_of_mem_nodeExpressions hp hblocks.fills hnode hs) t ht
  · obtain ⟨hname, rfl | ⟨a, ha, hgives⟩⟩ := hdescribes.element.of_mem ht
    · exact .elementHelper hnode hname
    · obtain ⟨ha, hd⟩ := List.mem_filter.1 ha
      rw [Bool.and_eq_true, hp.holdsDelimiter_eq] at hd
      exact .site (.inAttribute hmem (any_shields_above_node hnode) (resembles_view _ b.place) ha
        hd.2) hgives
  · obtain ⟨a, ha, rfl | ⟨hd, hgives⟩⟩ := hdescribes.of_mem_attributes ht
    · exact .attributeHelper hnode ha
    · exact .site (.inAttribute hmem (any_shields_above_node hnode) (.refl b.place)
        (List.mem_filter.1 ha).1 hd) hgives

end Pass

namespace Document

/-- The tokens of a stream: the first two are properties of the document. -/
theorem tells_of_mem_stream {p : Pass} {policy : Policy} {d : Markup.Document}
    {blocks : List Block} (hp : Pass.Starts policy d.root p) (hblocks : p.Blocks d.root blocks)
    {t : Token} (ht : t ∈ property .xmlVersion d.version :: property .xmlEncoding d.encoding
      :: blocks.flatMap (p.blockTokens (p.selector.nodes d.root))) :
    t = property .xmlVersion d.version ∨ t = property .xmlEncoding d.encoding
      ∨ p.Tells d.root t := by
  rcases List.mem_cons.1 ht with rfl | ht
  · exact .inl rfl
  rcases List.mem_cons.1 ht with rfl | ht
  · exact .inr (.inl rfl)
  · obtain ⟨b, hb, ht⟩ := List.mem_flatMap.1 ht
    exact .inr (.inr (Pass.tells_of_mem_block hp hblocks hb ht))

/-- What the tokens of a stream come from. -/
theorem lex_tells {policy : Policy} {d : Markup.Document} {file : Option String}
    {stream : LexedStream} (h : (lex policy d file).run.1 = .ok stream) :
    ∃ p, Pass.Starts policy d.root p
      ∧ ∀ t ∈ stream.toList, t = property .xmlVersion d.version
        ∨ t = property .xmlEncoding d.encoding ∨ p.Tells d.root t := by
  obtain ⟨p, blocks, hp, -, hblocks, rfl⟩ := lex_ok h
  exact ⟨p, hp, fun t ht => tells_of_mem_stream hp hblocks ht⟩

end Document

end TemplateLexer
