import TemplateLexer.Proofs.PlainNodes
import TemplateLexer.Proofs.SiteContents
/-!
Sections in the content of elements. A section comes whole to the content of an expression site, and
nothing of it is split as text, unless it is next to a node: the text right after a node was joined
into one text when the node left.
-/

set_option autoImplicit false

namespace TemplateLexer

open Markup

def Site.content? : Site → Option Place
  | .contentOf r => some r
  | .attributeOf _ _ => none

/-- The fields of a site that is the content of an element. -/
def Token.contentSite? (t : Token) : Option SiteFields :=
  match t.body with
  | .site f => if f.attributeName.isNone then some f else none
  | _ => none

/-- The elements whose content is a site that a node owns. -/
def Selector.contentSites (s : Selector) (root : Element) (nodes : List Place) (q : Place) :
    List Place :=
  root.places.filter fun r => Place.owns nodes q r && (s.exposed r.tags && holdsText nodes r)

/-- How children are read: each one as itself, but an element may be read as another child where its
declarations hide its number. -/
def Content.Reads (children : List Node) (child : Nat → List Letter) : Prop :=
  ∀ k n, (Markup.items children)[k]? = some n → child k = n.letters
    ∨ n.isElement = true ∧ ∃ m ∈ Markup.items children, child k = m.letters

section Plain

variable {policy : Policy} {above : List Tag} {id : String} {e : Element}

theorem customaryQualifier_isPlain {uri q : String} (h : customaryQualifier uri = some q) :
    q.toList.all inName = true := by
  rw [customaryQualifier.eq_def] at h
  split at h <;> cases h <;> decide

theorem isPlain_of_mem_nameBelow (tags : List Tag) (uri : Option String) (base : String) :
    ∀ d ∈ (nameBelow tags uri base).2, d.IsPlain := by
  intro d hd q hq
  cases uri with
  | none => cases hd
  | some u =>
    rw [nameBelow] at hd
    split at hd
    · cases hd
    · split at hd
      · cases hd
      · cases List.mem_singleton.1 hd
        cases hcustom : customaryQualifier u with
        | none =>
          rw [hcustom] at hq
          cases hq
          decide
        | some c =>
          rw [hcustom] at hq
          cases hq
          exact customaryQualifier_isPlain hcustom

theorem Policy.isPlain_newPlaceholder (h : policy.newPlaceholder above id = .ok e) :
    e.node.IsPlain := by
  obtain ⟨s, uri, base, -, -, rfl⟩ := newPlaceholder_ok h
  exact isPlain_of_mem_nameBelow above uri base

theorem forall_mem_joinFront {P : Node → Prop} {nodes : List Node} (htext : ∀ s, P (.text s))
    (h : ∀ n ∈ nodes, P n) : ∀ n ∈ joinFront nodes, P n := by
  intro n hn
  rw [joinFront, List.mem_append] at hn
  rcases hn with hn | hn
  · split at hn
    · cases hn
    · rw [List.mem_singleton.1 hn]
      exact htext _
  · exact h n ((List.dropWhile_suffix _).subset hn)

/-- What holds of text, of placeholders, and of elements whatever is inside them, stays true of
nodes that are cut. -/
theorem forall_mem_cutNodes {P : Node → Prop} {ph : Placeholders} (htext : ∀ s, P (.text s))
    (helement : ∀ tag children children', P (.element tag children) → P (.element tag children'))
    (hph : ∀ b e, ph b = some e → P e.node) (a : Address) (index : Nat) {nodes : List Node}
    (h : ∀ n ∈ nodes, P n) : ∀ n ∈ cutNodes ph a index nodes, P n := by
  induction nodes generalizing index with
  | nil => simp
  | cons n rest ih =>
    obtain ⟨hn, hrest⟩ := List.forall_mem_cons.1 h
    cases hc : n.isCharacters with
    | true =>
      rw [cutNodes_text hc]
      exact List.forall_mem_cons.2 ⟨hn, ih index hrest⟩
    | false =>
      cases hs : ph.standsFor (a ++ [index]) n with
      | none =>
        rw [cutNodes_staying hc hs]
        refine List.forall_mem_cons.2 ⟨?_, ih (index + 1) hrest⟩
        cases n with
        | element tag children =>
          rw [cutNode]
          exact helement _ _ _ hn
        | text _ | cdata _ | comment _ | instruction _ _ | reference _ => exact hn
      | some e =>
        rw [cutNodes_standing hs]
        exact List.forall_mem_cons.2 ⟨hph _ _ (Placeholders.of_standsFor hs).2,
          forall_mem_joinFront htext (ih (index + 1) hrest)⟩

end Plain

section Letters

variable {p : Pass} {policy : Policy} {root : Element} {nodes : List Place} {q r x : Place}

theorem Content.reads_cutNodes {ph : Placeholders} {a : Address} {children : List Node} :
    Content.Reads children (Content.readLetters (cutNodes ph a 0 children)) := by
  have hsame : ∀ (k : Nat) (m : Node), (Markup.items (cutNodes ph a 0 children))[k]? = some m →
      ∃ n : Node, (Markup.items children)[k]? = some n ∧ m.letters = n.letters
        ∧ m.isElement = n.isElement := by
    intro k m hm
    rw [getElem?_items_cutNodes, Option.map_eq_some_iff] at hm
    obtain ⟨n, hn, rfl⟩ := hm
    refine ⟨n, hn, ?_⟩
    split
    · rename_i e hs
      have he := (Placeholders.of_standsFor hs).1
      cases n with
      | element _ _ => exact ⟨rfl, rfl⟩
      | text _ | cdata _ | comment _ | instruction _ _ | reference _ => cases he
    · cases n with
      | element _ _ => simp [cutNode, Node.letters, Node.isElement]
      | text _ | cdata _ | comment _ | instruction _ _ | reference _ => simp [cutNode]
  intro k n hn
  have hcut : (Markup.items (cutNodes ph a 0 children))[k]?.isSome = true := by
    rw [getElem?_items_cutNodes, hn]
    rfl
  obtain ⟨m, hm⟩ := Option.isSome_iff_exists.1 hcut
  obtain ⟨n', hn', hletters, helement⟩ := hsame k m hm
  obtain rfl : n' = n := Option.some.inj (hn'.symm.trans hn)
  rcases Content.readLetters_eq hm with hread | ⟨he, x, hx, hread⟩
  · exact .inl (hread.trans hletters)
  · obtain ⟨j, hj⟩ := List.getElem?_of_mem hx
    obtain ⟨y, hy, hyletters, -⟩ := hsame j x hj
    exact .inr ⟨helement ▸ he, y, List.mem_of_getElem? hy, hread.trans hyletters⟩

theorem Selector.contents_expressionsAt (s : Selector) (root : Element) (nodes : List Place)
    (q : Place) : ((root.places.filter (Place.owns nodes q)).flatMap (s.expressionsAt nodes)).filterMap
        Site.content? = s.contentSites root nodes q := by
  have hat : ∀ r, (s.expressionsAt nodes r).filterMap Site.content?
      = if s.exposed r.tags && holdsText nodes r then [r] else [] := by
    intro r
    have hattributes : ∀ as : List Attribute,
        (as.map (Site.attributeOf r)).filterMap Site.content? = [] := by
      intro as
      rw [List.filterMap_map, List.filterMap_eq_nil_iff]
      exact fun _ _ => rfl
    rw [expressionsAt]
    cases s.exposed r.tags with
    | false => rfl
    | true =>
      rw [if_pos rfl, List.filterMap_append, Bool.true_and]
      cases r.tag.name.isInOrEmpty s.uris <;> cases holdsText nodes r <;>
        simp [hattributes, Site.content?]
  have hkeep : ∀ (P : Place → Bool) (places : List Place),
      (places.flatMap fun r => if P r then [r] else []) = places.filter P := by
    intro P places
    induction places with
    | nil => rfl
    | cons r places ih =>
      rw [List.flatMap_cons, ih, List.filter_cons]
      split <;> rfl
  rw [List.filterMap_flatMap, List.flatMap_congr fun r _ => hat r, hkeep, List.filter_filter,
    contentSites]
  exact List.filter_congr fun r _ => Bool.and_comm _ _

theorem Pass.shows_contents {sites shown : List Site}
    (h : List.Forall₂ (p.ShowsSite root) sites shown) :
    List.Forall₂ (p.Shows (p.selector.nodes root)) (sites.filterMap Site.content?)
      (shown.filterMap Site.content?) := by
  induction h with
  | nil => exact .nil
  | cons hs _ ih =>
    cases hs with
    | inAttribute _ _ => exact ih
    | inContent _ _ children => exact .cons children ih

end Letters

/-- What the site of the content of an element says. Its letters are those of the content, unless
there is a stand-in in a section: what comes right after a node is one text, and elsewhere sections
come as they are written. -/
structure Outline.IsContentOf (o : Outline) (r : Place) (f : SiteFields) : Prop where
  id : f.id = o.idAt r.address
  path : f.path = o.pathAt r.address
  letters : (∀ n ∈ r.element.children, Content.isClear n = true) →
    ∃ child, Content.Reads r.element.children child
      ∧ f.content.flatMap ContentToken.letters = Content.lettersOf child
          (fun k => (o.selector.nodes o.root).any (·.address == r.address ++ [k])) 0 false
          r.element.children

section Blocks

variable {p : Pass} {policy : Policy} {root : Element} {nodes : List Place} {q r x : Place}
  {w : Work} {t : Token} {blocks : List Block} {R : Place → SiteFields → Prop}

namespace Pass

theorem contentSite?_attribute {a : Attribute}
    (h : (Working.siteToken p (.attributeOf r a)).Gives w t) : t.contentSite? = none := by
  have houtline := outline_siteToken h
  cases t with
  | mk kind line body =>
    cases body with
    | site f =>
      have hbody := congrArg Token.body houtline
      simp only [Token.outline, markToken, Site.mark, TokenBody.site.injEq,
        SiteFields.mk.injEq] at hbody
      simp [Token.contentSite?, hbody.2.2.1]
    | property _ | helper _ | node _ => rfl

theorem isPlain_placeholders {b : Address} {e : Element} (h : p.placeholders nodes b = some e) :
    e.node.IsPlain := by
  obtain ⟨above, hnew⟩ := exists_newPlaceholder h
  exact Policy.isPlain_newPlaceholder hnew

/-- What is shown of the children of a plain element is plain. -/
theorem isPlain_shown (hplain : root.HoldsPlain) (hr : r ∈ root.places) (hx : p.Shows nodes r x) :
    ∀ n ∈ x.element.children, n.IsPlain := by
  rw [hx.children]
  exact forall_mem_cutNodes (fun _ => trivial) (fun _ _ _ h => h)
    (fun _ _ he => isPlain_placeholders he) _ _ (hplain r hr)

theorem areElements_placeholders (hr : r ∈ root.places) : Content.AreElements
    (p.placeholders (p.selector.nodes root)) r.address 0 r.element.children := by
  intro k n hn he
  refine placeholders_eq_none fun q hq ha => ?_
  rw [Nat.zero_add] at ha
  obtain ⟨-, hitem⟩ := (mem_places_concat_iff (mem_places_iff.1 hr) ha).1
    (Selector.mem_places_of_mem_nodes hq)
  cases Option.some.inj (hn.symm.trans hitem)
  cases he

theorem isSome_placeholders_children (hfills : p.Fills (p.selector.nodes root)) :
    (fun k => (p.placeholders (p.selector.nodes root) (r.address ++ [k])).isSome)
      = fun k => (p.selector.nodes root).any (·.address == r.address ++ [k]) := by
  funext k
  rw [Bool.eq_iff_iff, isSome_placeholders_iff (Place.apart_nodes p.selector root) hfills (by simp),
    List.any_eq_true]
  simp

theorem letters_items_shown (hfills : p.Fills (p.selector.nodes root))
    (hplain : root.HoldsPlain) (hr : r ∈ root.places) (hx : p.Shows (p.selector.nodes root) r x)
    (hclear : ∀ n ∈ r.element.children, Content.isClear n = true) :
    ∃ child, Content.Reads r.element.children child
      ∧ (Content.items x.element).flatMap (Content.Item.letters x.element.children)
        = Content.lettersOf child
          (fun k => (p.selector.nodes root).any (·.address == r.address ++ [k])) 0 false
          r.element.children := by
  have hplain' := isPlain_shown hplain hr hx
  have hclear' : ∀ n ∈ x.element.children, Content.isClear n = true := by
    rw [hx.children]
    exact forall_mem_cutNodes (fun _ => rfl) (fun _ _ _ _ => rfl) (fun _ _ _ => rfl) _ _ hclear
  refine ⟨Content.readLetters x.element.children, ?_, ?_⟩
  · rw [hx.children]
    exact Content.reads_cutNodes
  · calc (Content.items x.element).flatMap (Content.Item.letters x.element.children)
        = Content.lettersOf (Content.readLetters x.element.children) (fun _ => false) 0 false
            x.element.children := by
          rw [Content.items_eq hplain' hclear']
          exact Content.letters_itemsOf (List.nil_append _).symm []
      _ = Content.lettersOf (Content.readLetters x.element.children) (fun _ => false) 0 false
            (cutNodes (p.placeholders (p.selector.nodes root)) r.address 0 r.element.children) :=
          congrArg _ hx.children
      _ = _ := by
          rw [← isSome_placeholders_children hfills]
          exact Content.lettersOf_cutNodes (areElements_placeholders hr) false

/-- What a node shows of the content of an element is told by the document. -/
theorem contentSite?_content (hp : Starts policy root p)
    (hfills : p.Fills (p.selector.nodes root)) (hplain : root.HoldsPlain)
    (hr : r ∈ root.places) (hx : p.Shows (p.selector.nodes root) r x)
    (h : (Working.siteToken p (.contentOf x)).Gives w t) :
    ∃ f, t.contentSite? = some f ∧ (p.outline root).IsContentOf r f := by
  obtain ⟨ts, h⟩ := h
  obtain ⟨f, hbody, hpath, hid, hname, hletters⟩ := Working.contentSite_ok h
  refine ⟨f, ?_, ?_, ?_, fun hclear => ?_⟩
  · simp [Token.contentSite?, hbody, hname]
  · rw [hid, hx.address, ← hp.idAt_eq hr]
    rfl
  · rw [hpath, hx.address, hp.pathAt_eq hr]
  · rw [hletters]
    exact letters_items_shown hfills hplain hr hx hclear

theorem contentSites_sites {sites : List Site} {ts : List Token}
    (h : List.Forall₂ (fun s t => (Working.siteToken p s).Gives w t) sites ts) {rs : List Place}
    (hshows : List.Forall₂ (p.Shows (p.selector.nodes root)) rs (sites.filterMap Site.content?))
    (hR : ∀ r x t, r ∈ rs → .contentOf x ∈ sites → p.Shows (p.selector.nodes root) r x →
      (Working.siteToken p (.contentOf x)).Gives w t → ∃ f, t.contentSite? = some f ∧ R r f) :
    List.Forall₂ R rs (ts.filterMap Token.contentSite?) := by
  induction h generalizing rs with
  | nil =>
    cases hshows
    exact .nil
  | @cons s t sites _ hs _ ih =>
    cases s with
    | attributeOf owner a =>
      rw [List.filterMap_cons_none (contentSite?_attribute hs)]
      exact ih hshows fun r x t hr hx => hR r x t hr (List.mem_cons_of_mem _ hx)
    | contentOf x =>
      obtain ⟨r, rest, hr, hrest, rfl⟩ := List.forall₂_cons_right_iff.1 hshows
      obtain ⟨f, hf, hcontent⟩ := hR r x t (List.mem_cons_self ..) (List.mem_cons_self ..) hr hs
      rw [List.filterMap_cons_some hf]
      exact .cons hcontent (ih hrest fun r x t hr hx =>
        hR r x t (List.mem_cons_of_mem _ hr) (List.mem_cons_of_mem _ hx))

def TellsContents (p : Pass) (root : Element) (R : Place → SiteFields → Prop) : Prop :=
  ∀ q ∈ p.selector.nodes root, ∀ done : List Place, (∀ n ∈ done, n ∈ p.selector.nodes root) →
    ∀ r ∈ root.places, ∀ x, p.Shows (p.selector.nodes root) r x →
      .contentOf x ∈ p.selector.nodeExpressions (p.view (p.selector.nodes root) q) →
      ∀ t, (Working.siteToken p (.contentOf x)).Gives
          (p.workOn root (p.selector.nodes root) done q) t →
        ∃ f, t.contentSite? = some f ∧ R r f

theorem contentSites_block (hp : Starts policy root p) (hblocks : p.Blocks root blocks)
    (hR : p.TellsContents root R) {b : Block} (hb : b ∈ blocks) :
    List.Forall₂ R (p.selector.contentSites root (p.selector.nodes root) b.place)
      ((p.blockTokens (p.selector.nodes root) b).filterMap Token.contentSite?) := by
  obtain ⟨_, done, hdone, hdescribes⟩ := hblocks.describes b hb
  have helement : b.element.filterMap Token.contentSite? = [] := by
    refine List.filterMap_eq_nil_iff.2 fun t ht => ?_
    rcases (hdescribes.element.of_mem ht).2 with rfl | ⟨a, -, hgives⟩
    · rfl
    · exact contentSite?_attribute hgives
  have hattributes : b.attributes.filterMap Token.contentSite? = [] := by
    refine List.filterMap_eq_nil_iff.2 fun t ht => ?_
    obtain ⟨a, -, rfl | ⟨-, hgives⟩⟩ := hdescribes.of_mem_attributes ht
    · rfl
    · exact contentSite?_attribute hgives
  have hhead : (p.nodeToken (p.selector.nodes root) b).contentSite? = none := rfl
  have hnodes : ∀ n ∈ done, n ∈ p.selector.nodes root := fun n hn =>
    mem_byDepth.1 (hdone ▸ List.mem_append_right _ (List.mem_cons_of_mem _ hn))
  rw [blockTokens, List.filterMap_cons_none hhead, List.filterMap_append, List.filterMap_append,
    helement, hattributes, List.append_nil, List.append_nil]
  have hshows := shows_contents
    (showsSites_nodeExpressions hp (hblocks.mem_nodes hb) (hblocks.fills.inside b.place))
  rw [Selector.contents_expressionsAt] at hshows
  refine contentSites_sites hdescribes.sites hshows fun r x t hr hx hshows hgives => ?_
  exact hR _ (hblocks.mem_nodes hb) done hnodes r (List.mem_filter.1 hr).1 x hshows hx t hgives

/-- The contents in a stream, one for each element with text outside shielded content. -/
theorem contentSites_stream {d : Markup.Document} (hp : Starts policy d.root p)
    (hblocks : p.Blocks d.root blocks) (hR : p.TellsContents d.root R) {stream : LexedStream}
    (hstream : stream = ⟨d.print, true, .frozen (Document.property .xmlVersion d.version
      :: Document.property .xmlEncoding d.encoding
      :: blocks.flatMap (p.blockTokens (p.selector.nodes d.root))), 0⟩) :
    List.Forall₂ R ((byDepth (p.selector.nodes d.root)).flatMap
        (p.selector.contentSites d.root (p.selector.nodes d.root)))
      (stream.toList.filterMap Token.contentSite?) := by
  have htokens : stream.toList.filterMap Token.contentSite?
      = blocks.flatMap fun b =>
        (p.blockTokens (p.selector.nodes d.root) b).filterMap Token.contentSite? := by
    rw [hstream]
    exact List.filterMap_flatMap
  rw [htokens, ← hblocks.places, List.flatMap_map]
  exact forall₂_flatMap fun b hb => contentSites_block hp hblocks hR hb

end Pass

end Blocks

namespace Document

/-- The sites in a stream that are contents: one for each element with text outside shielded
content, beside the other sites of its node. -/
theorem lex_sections {source : Source} {policy : Policy} {d : Markup.Document}
    {file : Option String} {stream : LexedStream} (hload : source.load file = .ok d)
    (h : (lex policy d file).run.1 = .ok stream) :
    ∃ o : Outline, o.IsOf policy d.root
      ∧ List.Forall₂ o.IsContentOf
        ((byDepth (o.selector.nodes d.root)).flatMap
          (o.selector.contentSites d.root (o.selector.nodes d.root)))
        (stream.toList.filterMap Token.contentSite?) := by
  obtain ⟨p, blocks, hp, -, hblocks, hstream⟩ := lex_ok h
  exact ⟨p.outline d.root, hp.isOf, Pass.contentSites_stream hp hblocks
    (fun _ _ _ _ _ hr _ hx _ _ => Pass.contentSite?_content hp hblocks.fills
      (Source.holdsPlain_of_load hload) hr hx) hstream⟩

/-- The source of a document with a section before a node. -/
def sourceWithSection : Source :=
  .text "<r xmlns:x=\"urn:x\">{% a %}<![CDATA[{% s %}]]><x:n/>{% b %}</r>"

theorem lex_sections_sample : ∃ d stream, sourceWithSection.load none = .ok d
    ∧ (lex .standard d none).run.1 = .ok stream
    ∧ ∃ o : Outline, o.IsOf .standard d.root ∧ List.Forall₂ o.IsContentOf
      ((byDepth (o.selector.nodes d.root)).flatMap
        (o.selector.contentSites d.root (o.selector.nodes d.root)))
      (stream.toList.filterMap Token.contentSite?) := by
  have hlexes : (match sourceWithSection.load none with
      | .ok d => (lex .standard d none).run.1.isOk
      | .error _ => false) = true := by
    decide +kernel
  split at hlexes
  · rename_i d hload
    obtain ⟨stream, h⟩ := Except.exists_of_isOk hlexes
    exact ⟨d, stream, hload, h, lex_sections hload h⟩
  · cases hlexes

/-- The source of a document with a section right after a node. -/
def sourceAfterNode : Source :=
  .text "<r xmlns:x=\"urn:x\">{% a %}<x:n/><![CDATA[{% b %}]]></r>"

/-- What a section right after a node says is split as text. -/
theorem lex_sections_afterNode :
    (((sourceAfterNode.load none).toOption.bind fun d =>
        (lex .standard d none).run.1.toOption).map fun stream =>
          (stream.toList.filterMap Token.contentSite?).map fun f =>
            f.content.map fun t => (t.kind, t.value))
      = some [[(.expressionOpen, "\x7b%"), (.expressionChars, " a "), (.expressionClose, "%\x7d"),
          (.expressionElement, "<x:n xmlns:x=\"urn:x\"/>"), (.expressionOpen, "\x7b%"),
          (.expressionChars, " b "), (.expressionClose, "%\x7d")]] := by
  decide +kernel

end Document

end TemplateLexer
