import TemplateLexer.Proofs.Sites
/-!
The outline of a stream: which tokens it has, in which order, and where each of them stands in the
document. It is told by the document and its nodes alone. What a node holds and what an expression
says is left out here.
-/

set_option autoImplicit false

namespace TemplateLexer

open Markup

/-- A token without the markup of a node or the text of an expression, and without the relations of
a node but for the node around it. -/
def Token.outline (t : Token) : Token :=
  { t with
    body :=
      match t.body with
      | .node f => .node { f with previous := none, next := none, content := "", children := [] }
      | .site f => .site { f with source := "", content := [] }
      | body => body }

/-- What the token of a node says of it. -/
def Token.node? (t : Token) : Option NodeFields :=
  match t.body with
  | .node f => some f
  | _ => none

/-- A mapping of names in the order in which they come first; later values replace earlier ones. -/
def entriesOf (pairs : List (String × String)) : List (String × String) :=
  pairs.foldl (fun entries pair => putKey pair.1 pair.2 entries) []

/-- What the outline of a stream is told by. The selector says what references in the values of
attributes stand for. -/
structure Outline where
  selector : Selector
  digest : Digest
  root : Element

theorem Policy.hashing_standard : Policy.standard.hashing = .ok .sha1 := by
  have hlower : "sha1".toLower = "sha1" := by decide +kernel
  simp only [Policy.hashing, Policy.standard, Engines.standard, Digest.named, hlower]

namespace Outline

/-- The outline of a document under a policy, where references stand for nothing. -/
structure IsOf (o : Outline) (policy : Policy) (root : Element) : Prop where
  uris : (policy.classify root).run.1 = .ok o.selector.uris
  digest : policy.hashing = .ok o.digest
  expand : o.selector.expand = fun _ => ""
  policy : o.selector.policy = policy
  root : o.root = root

/-- There is one outline of a document. -/
theorem IsOf.eq {o : Outline} {policy : Policy} {root : Element} {uris : List String}
    {digest : Digest} (h : o.IsOf policy root)
    (huris : (policy.classify root).run.1.toOption = some uris)
    (hdigest : policy.hashing = .ok digest) :
    o = ⟨⟨uris, policy, fun _ => ""⟩, digest, root⟩ := by
  obtain ⟨⟨uris', policy', expand⟩, digest', root'⟩ := o
  obtain ⟨hu, hd, rfl, rfl, rfl⟩ := h
  rw [hu] at huris
  cases huris
  cases hd.symm.trans hdigest
  rfl

variable (o : Outline)

/-- Whether an element is the root, or is a helper or carries one outside shielded content. -/
def isNode (q : Place) : Bool :=
  q.address == [] || (!q.above.any o.selector.policy.shields
    && (q.tag.name.isIn o.selector.uris
      || q.tag.attributes.any (·.name.isIn o.selector.uris)))

def nodes : List Place := o.root.places.filter o.isNode

def pathAt (a : Address) : String := (o.root.path? a).getD ""

def idAt (a : Address) : String := o.digest.hex (o.pathAt a)

def attributePath (q : Place) (a : Attribute) : String :=
  o.pathAt q.address ++ "/@" ++ qualifiedName q.tags a.name.uri a.name.base

def node (q : Place) : Token :=
  ⟨if q.address = [] then .rootNode else .elementNode, q.tag.line,
    .node ⟨o.idAt q.address, o.pathAt q.address,
      (nodeAbove? o.nodes q.address).map fun n => o.idAt n.address, none, none, "", []⟩⟩

/-- An expression in an attribute of an element or in its content. -/
def site : Site → Token
  | .attributeOf q a =>
    ⟨.expression, q.tag.line, .site ⟨o.digest.hex (o.attributePath q a), o.attributePath q a,
      some (qualifiedName q.tags a.name.uri a.name.base), "", []⟩⟩
  | .contentOf q =>
    ⟨.expression, q.tag.line, .site ⟨o.idAt q.address, o.pathAt q.address, none, "", []⟩⟩

/-- The attributes of an element that are no helpers, with their names as an author writes them. -/
def plainEntries (q : Place) : List (String × String) :=
  (q.tag.attributes.filter fun a => !a.name.isIn o.selector.uris).map fun a =>
    (qualifiedName q.tags a.name.uri a.name.base, a.valueWith o.selector.expand)

def elementPart (q : Place) : List Token :=
  if q.tag.name.isIn o.selector.uris then
    ⟨.elementHelper, q.tag.line, .helper ⟨o.idAt q.address, o.pathAt q.address, q.tag.name.base,
        q.tag.name.uri.getD "", entriesOf (o.plainEntries q), none⟩⟩
      :: (o.selector.plainExpressions q.tag).map fun a => o.site (.attributeOf q a)
  else []

def attributePart (q : Place) (a : Attribute) : List Token :=
  ⟨.attributeHelper, q.tag.line, .helper ⟨o.digest.hex (o.attributePath q a), o.attributePath q a,
      a.name.base, a.name.uri.getD "", [], some (a.valueWith o.selector.expand)⟩⟩
    :: if o.selector.holdsDelimiter a then [o.site (.attributeOf q a)] else []

/-- The tokens of a node. -/
def block (q : Place) : List Token :=
  o.node q :: ((o.selector.ownSites o.root o.nodes q).map o.site ++ o.elementPart q
    ++ (q.tag.attributes.filter (·.name.isIn o.selector.uris)).flatMap (o.attributePart q))

/-- The tokens of all nodes: by depth, and in document order where depths are the same. -/
def blocks : List Token := (byDepth o.nodes).flatMap o.block

end Outline

section Entries

theorem putKey_of_not_mem {k v : String} {entries : List (String × String)}
    (h : k ∉ entries.map (·.1)) : putKey k v entries = entries ++ [(k, v)] := by
  induction entries with
  | nil => rfl
  | cons entry rest ih =>
    rw [List.map_cons, List.mem_cons, not_or] at h
    rw [putKey, if_neg (Ne.symm h.1), ih h.2]
    rfl

theorem entriesOf_of_nodup {pairs : List (String × String)} (h : (pairs.map (·.1)).Nodup) :
    entriesOf pairs = pairs := by
  have hfold : ∀ entries : List (String × String), ((entries ++ pairs).map (·.1)).Nodup →
      pairs.foldl (fun entries pair => putKey pair.1 pair.2 entries) entries
        = entries ++ pairs := by
    clear h
    induction pairs with
    | nil => simp
    | cons pair rest ih =>
      intro entries hnodup
      have hnew : pair.1 ∉ entries.map (·.1) := by
        rw [List.map_append, List.nodup_append] at hnodup
        intro hmem
        exact hnodup.2.2 _ hmem _ (by simp) rfl
      rw [List.foldl_cons, putKey_of_not_mem hnew, ih _ (by simpa using hnodup)]
      simp
  exact hfold [] h

end Entries

namespace Pass

variable {p : Pass} {policy : Policy} {root : Element} {blocks : List Block} {q : Place}

/-- The outline that belongs to a pass. -/
def outline (p : Pass) (root : Element) : Outline := ⟨p.selector, p.digest, root⟩

theorem Starts.pathAt_eq (hp : Starts policy root p) (hq : q ∈ root.places) :
    p.pathAt q.address = (p.outline root).pathAt q.address := by
  rw [Outline.pathAt, outline, path?_of_pathsOf hp.paths hq]
  rfl

theorem Starts.idAt_eq (hp : Starts policy root p) (hq : q ∈ root.places) :
    p.idAt q.address = (p.outline root).idAt q.address := by
  rw [idAt, Outline.idAt, hp.pathAt_eq hq]
  rfl

theorem Starts.isOf (hp : Starts policy root p) : (p.outline root).IsOf policy root where
  uris := hp.uris
  digest := hp.digest
  expand := by rw [outline, hp.selector]
  policy := by rw [outline, hp.selector]
  root := rfl

theorem nodes_outline (he : "" ∉ p.selector.uris) :
    (p.outline root).nodes = p.selector.nodes root := by
  refine List.filter_congr fun q _ => ?_
  rw [Outline.isNode, Selector.isMarked, Selector.exposed, Name.isInOrEmpty_eq_isIn he]
  simp only [Name.isInOrEmpty_eq_isIn he]
  cases q.address <;> rfl

def markToken (p : Pass) (m : SiteMark) : Token :=
  match m.inAttribute with
  | some (_, name) =>
    let path := p.pathAt m.address ++ "/@" ++ name
    ⟨.expression, m.line, .site ⟨p.digest.hex path, path, some name, "", []⟩⟩
  | none =>
    ⟨.expression, m.line, .site ⟨p.idAt m.address, p.pathAt m.address, none, "", []⟩⟩

theorem outline_token {path : String} {line : Nat} {name : Option String} {c : SiteContent}
    {t : Token} (h : c.token p path line name = .ok t) :
    t.outline = ⟨.expression, line, .site ⟨p.digest.hex path, path, name, "", []⟩⟩ := by
  rw [SiteContent.token] at h
  split at h
  · cases h
    rfl
  · cases h

theorem outline_siteToken {s : Site} {w : Work} {t : Token}
    (h : (Working.siteToken p s).Gives w t) : t.outline = p.markToken s.mark := by
  obtain ⟨ts, h⟩ := h
  cases s with
  | attributeOf owner a => exact outline_token (Working.ofExcept_ok h).1
  | contentOf owner =>
    obtain ⟨c, mid, -, htoken⟩ := Working.bind_ok h
    exact outline_token (Working.ofExcept_ok htoken).1

theorem node?_siteToken {s : Site} {w : Work} {t : Token}
    (h : (Working.siteToken p s).Gives w t) : t.node? = none := by
  have houtline := outline_siteToken h
  have hbody : t.outline.node? = none := by
    rw [houtline, markToken]
    split <;> rfl
  cases t with
  | mk kind line body =>
    cases body with
    | node f => cases hbody
    | property _ | helper _ | site _ => rfl

theorem filterMap_node?_sites {w : Work} {sites : List Site} {ts : List Token}
    (h : List.Forall₂ (fun s t => (Working.siteToken p s).Gives w t) sites ts) :
    ts.filterMap Token.node? = [] := by
  induction h with
  | nil => rfl
  | cons hs _ ih => rw [List.filterMap_cons_none (node?_siteToken hs), ih]

/-- Of the tokens of a block, only the first one is that of a node. -/
theorem filterMap_node?_block {nodes done : List Place} {b : Block}
    (h : p.Describes root nodes done b) :
    (p.blockTokens nodes b).filterMap Token.node? = [p.nodeFields nodes b] := by
  have helement : b.element.filterMap Token.node? = [] := by
    refine List.filterMap_eq_nil_iff.2 fun t ht => ?_
    rcases (h.element.of_mem ht).2 with rfl | ⟨a, -, hgives⟩
    · rfl
    · exact node?_siteToken hgives
  have hattributes : b.attributes.filterMap Token.node? = [] := by
    refine List.filterMap_eq_nil_iff.2 fun t ht => ?_
    obtain ⟨a, -, rfl | ⟨-, hgives⟩⟩ := h.of_mem_attributes ht
    · rfl
    · exact node?_siteToken hgives
  have hrest : (b.sites ++ b.element ++ b.attributes).filterMap Token.node? = [] := by
    rw [List.filterMap_append, List.filterMap_append, filterMap_node?_sites h.sites, helement,
      hattributes]
    rfl
  have hhead : (p.nodeToken nodes b).node? = some (p.nodeFields nodes b) := rfl
  rw [blockTokens, List.filterMap_cons_some hhead, hrest]

theorem markToken_mark (hp : Starts policy root p) {s : Site} (h : s.owner ∈ root.places) :
    p.markToken s.mark = (p.outline root).site s := by
  cases s with
  | attributeOf owner a =>
    have hpath := hp.pathAt_eq h
    simp only [Site.owner] at hpath
    simp only [markToken, Site.mark, Outline.site, Outline.attributePath, hpath]
    rfl
  | contentOf owner =>
    have hpath := hp.pathAt_eq h
    have hid := hp.idAt_eq h
    simp only [Site.owner] at hpath hid
    simp only [markToken, Site.mark, Outline.site, hpath, hid]

theorem outline_sites {w : Work} {sites : List Site} {ts : List Token}
    (h : List.Forall₂ (fun s t => (Working.siteToken p s).Gives w t) sites ts) :
    ts.map Token.outline = (sites.map Site.mark).map p.markToken := by
  induction h with
  | nil => rfl
  | cons hs _ ih => rw [List.map_cons, List.map_cons, List.map_cons, outline_siteToken hs, ih]

theorem outline_nodeToken (hp : Starts policy root p) (he : "" ∉ p.selector.uris) {b : Block}
    (hb : b.place ∈ p.selector.nodes root) :
    (p.nodeToken (p.selector.nodes root) b).outline = (p.outline root).node b.place := by
  have hmem := Selector.mem_places_of_mem_nodes hb
  have hancestor : p.ancestorAt (p.selector.nodes root) b.place.address
      = (nodeAbove? (p.outline root).nodes b.place.address).map
          fun n => (p.outline root).idAt n.address := by
    rw [ancestorAt_eq, nodes_outline he]
    refine Option.map_congr fun n hn => ?_
    have hnode := ((nodeAbove?_eq_some_iff (Place.apart_nodes p.selector root)).1 hn).1
    exact hp.idAt_eq (Selector.mem_places_of_mem_nodes hnode)
  rw [nodeToken, nodeFields, Token.outline, Outline.node]
  simp only [hp.idAt_eq hmem, hp.pathAt_eq hmem, hancestor, List.isEmpty_iff]

theorem outline_attributes (hp : Starts policy root p) {w : Work} (hq : q ∈ root.places)
    {attributes : List Attribute} {parts : List (List Token)}
    (h : List.Forall₂ (p.IsAttributePart w q) attributes parts) :
    parts.flatten.map Token.outline = attributes.flatMap ((p.outline root).attributePart q) := by
  induction h with
  | nil => rfl
  | @cons a part _ _ hpart _ ih =>
    rw [List.flatten_cons, List.map_append, List.flatMap_cons, ih]
    congr 1
    obtain ⟨site, rfl, hsite⟩ := hpart
    have hpath : p.attributePath q.address q.tags a.name
        = (p.outline root).attributePath q a := by
      rw [Outline.attributePath, ← hp.pathAt_eq hq]
      rfl
    have hhelper : (p.attributeHelperToken q a).outline
        = ⟨.attributeHelper, q.tag.line, .helper ⟨p.digest.hex ((p.outline root).attributePath q a),
            (p.outline root).attributePath q a, a.name.base, a.name.uri.getD "", [],
            some a.plainValue⟩⟩ := by
      rw [← hpath]
      rfl
    rw [List.map_cons, hhelper, Outline.attributePart, Selector.holdsDelimiter_eq hp.isOf.expand,
      hp.isOf.expand]
    refine congrArg (_ :: ·) ?_
    split at hsite
    · rename_i hd
      obtain ⟨t, ht, rfl⟩ := hsite
      have houtline := outline_siteToken (s := .attributeOf q a) ht
      rw [markToken_mark (s := .attributeOf q a) hp hq] at houtline
      rw [if_pos hd, List.map_singleton, houtline]
    · rename_i hd
      rw [if_neg hd, hsite]
      rfl

theorem outline_element (hp : Starts policy root p) (he : "" ∉ p.selector.uris) {w : Work}
    (hq : q ∈ root.places) {nodes : List Place} {part : List Token}
    (h : p.IsElementPart w (p.view nodes q) part) :
    part.map Token.outline = (p.outline root).elementPart q := by
  have hname : (p.view nodes q).tag.name = q.tag.name := rfl
  have htags : (p.view nodes q).tags.map Tag.frame = q.tags.map Tag.frame := rfl
  have hattributes : (p.view nodes q).tag.attributes
      = q.tag.attributes.filter fun a => !a.name.isIn p.selector.uris := by
    refine List.filter_congr fun a _ => ?_
    rw [Name.isInOrEmpty_eq_isIn he]
  rw [IsElementPart, hname] at h
  rw [Outline.elementPart]
  split at h
  · rename_i hu
    obtain ⟨sites, rfl, hsites⟩ := h
    have hentries : Working.plainAttributes p.selector.uris (p.view nodes q).tags
        (p.view nodes q).tag = entriesOf ((p.outline root).plainEntries q) := by
      rw [Working.plainAttributes, hattributes, entriesOf, Outline.plainEntries, List.foldl_map,
        List.filter_filter, hp.isOf.expand]
      simp only [qualifiedName_congr htags, Bool.and_self]
      rfl
    have hhelper : (p.elementHelperToken (p.view nodes q)).outline
        = ⟨.elementHelper, q.tag.line, .helper ⟨(p.outline root).idAt q.address,
            (p.outline root).pathAt q.address, q.tag.name.base, q.tag.name.uri.getD "",
            entriesOf ((p.outline root).plainEntries q), none⟩⟩ := by
      rw [← hentries, ← hp.idAt_eq hq, ← hp.pathAt_eq hq]
      rfl
    have hplain : p.selector.elementHelperExpressions (p.view nodes q).tag
        = p.selector.plainExpressions q.tag := by
      rw [elementHelperExpressions_view]
      refine List.filter_congr fun a _ => ?_
      rw [Name.isInOrEmpty_eq_isIn he]
    have hmark : ∀ a, p.markToken (Site.attributeOf (p.view nodes q) a).mark
        = (p.outline root).site (.attributeOf q a) := by
      intro a
      rw [← markToken_mark (s := .attributeOf q a) hp hq, Site.mark, qualifiedName_congr htags]
      rfl
    rw [if_pos (show q.tag.name.isIn (p.outline root).selector.uris = true from hu),
      List.map_cons, hhelper, outline_sites hsites, hplain, List.map_map, List.map_map]
    congr 1
    exact List.map_congr_left fun a _ => hmark a
  · rename_i hu
    rw [if_neg (show ¬q.tag.name.isIn (p.outline root).selector.uris = true from hu), h]
    rfl

theorem outline_block (hp : Starts policy root p) (hblocks : p.Blocks root blocks)
    (he : "" ∉ p.selector.uris) {b : Block} (hb : b ∈ blocks) :
    (p.blockTokens (p.selector.nodes root) b).map Token.outline
      = (p.outline root).block b.place := by
  have hnode := hblocks.mem_nodes hb
  have hmem := Selector.mem_places_of_mem_nodes hnode
  obtain ⟨_, _, -, hdescribes⟩ := hblocks.describes b hb
  obtain ⟨parts, hparts, hflatten⟩ := hdescribes.attributes
  have hsites : b.sites.map Token.outline
      = ((p.outline root).selector.ownSites root (p.outline root).nodes b.place).map
          (p.outline root).site := by
    rw [outline_sites hdescribes.sites, map_mark_nodeExpressions hp hblocks.fills he hnode,
      List.map_map, nodes_outline he]
    refine List.map_congr_left fun s hs => markToken_mark hp ?_
    exact Selector.owner_mem_of_mem_ownSites hs
  have hhelpers : p.selector.helperAttributes b.place.tag
      = b.place.tag.attributes.filter (·.name.isIn p.selector.uris) := by
    refine List.filter_congr fun a _ => ?_
    rw [Name.isInOrEmpty_eq_isIn he]
  rw [blockTokens, Outline.block, List.map_cons, outline_nodeToken hp he hnode, List.map_append,
    List.map_append, hsites, outline_element hp he hmem hdescribes.element, hflatten,
    outline_attributes hp hmem hparts, hhelpers]
  rfl

end Pass

namespace Document

theorem nodeFields_stream {p : Pass} {d : Markup.Document} {blocks : List Block}
    (h : p.Blocks d.root blocks) :
    (⟨d.print, true, .frozen (property .xmlVersion d.version :: property .xmlEncoding d.encoding
        :: blocks.flatMap (p.blockTokens (p.selector.nodes d.root))), 0⟩ :
      LexedStream).toList.filterMap Token.node?
      = blocks.map (p.nodeFields (p.selector.nodes d.root)) := by
  have hblocks : (blocks.flatMap (p.blockTokens (p.selector.nodes d.root))).filterMap Token.node?
      = blocks.map (p.nodeFields (p.selector.nodes d.root)) := by
    rw [List.filterMap_flatMap, List.map_eq_flatMap]
    refine List.flatMap_congr fun b hb => ?_
    obtain ⟨_, _, -, hdescribes⟩ := h.describes b hb
    exact Pass.filterMap_node?_block hdescribes
  exact hblocks

/-- The outline of the stream of a document, unless names in no namespace are helpers: its
properties, and one block for each node. Nodes come by depth and in document order at one depth, so
that those inside a node come later. -/
theorem lex_outline {policy : Policy} {d : Markup.Document} {file : Option String}
    {stream : LexedStream} (h : (lex policy d file).run.1 = .ok stream) :
    ∃ o : Outline, o.IsOf policy d.root ∧ ("" ∉ o.selector.uris →
      stream.toList.map Token.outline
          = property .xmlVersion d.version :: property .xmlEncoding d.encoding :: o.blocks
        ∧ (byDepth o.nodes).Perm o.nodes
        ∧ (byDepth o.nodes).Pairwise Place.IsHigher
        ∧ (byDepth o.nodes).Pairwise fun q r => ¬r.address <+: q.address) := by
  obtain ⟨p, blocks, hp, -, hblocks, rfl⟩ := lex_ok h
  have hsorted := pairwise_byDepth (p.selector.pairwise_nodes d.root)
  refine ⟨p.outline d.root, hp.isOf, fun he => ⟨?_, byDepth_perm _, ?_, ?_⟩⟩
  · have hmap : (blocks.flatMap (p.blockTokens (p.selector.nodes d.root))).map Token.outline
        = (blocks.map (·.place)).flatMap (p.outline d.root).block := by
      rw [List.map_flatMap, List.flatMap_map]
      exact List.flatMap_congr fun b hb => Pass.outline_block hp hblocks he hb
    rw [hblocks.places] at hmap
    rw [Outline.blocks, Pass.nodes_outline he, ← hmap]
    rfl
  · rw [Pass.nodes_outline he]
    exact hsorted
  · rw [Pass.nodes_outline he]
    refine hsorted.imp_of_mem fun {q r} hq hr hqr => ?_
    exact not_prefix_of_isHigher (Selector.mem_places_of_mem_nodes (mem_byDepth.1 hq))
      (Selector.mem_places_of_mem_nodes (mem_byDepth.1 hr)) hqr

/-- `<r xmlns:x="urn:x" x:k="{% a %}" t="{% b %}"><x:i c="{% c %}">{% d %}</x:i>tail</r>` -/
def sample : Markup.Document where
  version := "1.0"
  encoding := "UTF-8"
  leading := []
  doctype := none
  before := []
  root :=
    ⟨⟨.bare "r", [⟨some "x", "urn:x"⟩],
        [⟨⟨some "x", some "urn:x", "k"⟩, [.text "{% a %}"]⟩, ⟨.bare "t", [.text "{% b %}"]⟩], 1⟩,
      [.element ⟨⟨some "x", some "urn:x", "i"⟩, [], [⟨.bare "c", [.text "{% c %}"]⟩], 1⟩
          [.text "{% d %}"],
        .text "tail"]⟩
  after := []

theorem eq_of_isOf_sample {o : Outline} (h : o.IsOf .standard sample.root) :
    o = ⟨⟨["urn:x"], .standard, fun _ => ""⟩, .sha1, sample.root⟩ :=
  h.eq (by decide +kernel) Policy.hashing_standard

theorem lex_outline_sample : ∃ stream, (lex .standard sample none).run.1 = .ok stream
    ∧ stream.toList.map Token.outline
      = property .xmlVersion "1.0" :: property .xmlEncoding "UTF-8"
        :: (⟨⟨["urn:x"], .standard, fun _ => ""⟩, .sha1, sample.root⟩ : Outline).blocks := by
  obtain ⟨stream, h⟩ := Except.exists_of_isOk
    (show (lex .standard sample none).run.1.isOk = true by decide +kernel)
  obtain ⟨o, ho, houtline⟩ := lex_outline h
  obtain rfl := eq_of_isOf_sample ho
  exact ⟨stream, h, (houtline (by decide)).1⟩

/-- `<!DOCTYPE r [<!ENTITY o "{&#37; a &#37;}">]><r xmlns:x="urn:x" x:k="&o;" t="&o;"/>` -/
def sampleWithReferences : Markup.Document where
  version := "1.0"
  encoding := "UTF-8"
  leading := []
  doctype := some ⟨"r", none, none,
    [.entity ⟨false, "o", .literal "{&#37; a &#37;}" "{% a %}"⟩]⟩
  before := []
  root :=
    ⟨⟨.bare "r", [⟨some "x", "urn:x"⟩],
      [⟨⟨some "x", some "urn:x", "k"⟩, [.reference "o"]⟩, ⟨.bare "t", [.reference "o"]⟩], 1⟩, []⟩
  after := []

/-- References in attributes do not show in the stream, neither as they are written nor as what
they stand for. -/
theorem lex_outline_references :
    (Policy.standard.classify sampleWithReferences.root).run.1.toOption = some ["urn:x"]
      ∧ (lex .standard sampleWithReferences none).run.1.isOk = true
      ∧ ∀ expand ∈ [fun name => String.ofList (printReference name), sampleWithReferences.expand],
        ((lex .standard sampleWithReferences none).run.1.toOption.map fun stream =>
            stream.toList.map Token.outline)
          ≠ some (property .xmlVersion "1.0" :: property .xmlEncoding "UTF-8"
            :: (⟨⟨["urn:x"], .standard, expand⟩, .sha1,
                sampleWithReferences.root⟩ : Outline).blocks) := by
  decide +kernel

end Document

end TemplateLexer
