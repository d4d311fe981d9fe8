import Mathlib.Data.List.Perm.Basic
import TemplateLexer.Proofs.Joined
import TemplateLexer.Proofs.NodeContent
/-!
Expressions and the sites that they come from. Attributes are looked at in three ways, and the
content of elements in one; together they find every site once, although the tree shrinks in
between.
-/

set_option autoImplicit false

namespace TemplateLexer

open Markup

namespace Outline

variable (o : Outline)

/-- Whether an attribute is an expression site. Helper attributes of nodes are, and so are all
attributes of nodes that are helpers; others have to be outside shielded content. -/
def isExpression (q : Place) (a : Attribute) : Bool :=
  o.selector.holdsDelimiter a
    && (o.isNode q && (a.name.isIn o.selector.uris || q.tag.name.isIn o.selector.uris)
      || o.selector.exposed q.tags)

/-- The expression sites at an element. -/
def sitesAt (q : Place) : List Site :=
  (if o.selector.exposed q.tags && Selector.hasText q.element then [.contentOf q] else [])
    ++ (q.tag.attributes.filter (o.isExpression q)).map (.attributeOf q)

/-- The expression sites of a document. -/
def sites : List Site := o.root.places.flatMap o.sitesAt

/-- Whether a node is the nearest one to a site, on the way from its element up to the root. -/
def isNearestTo (q : Place) (s : Site) : Bool := Place.owns o.nodes q s.owner

/-- The run of text and sections right after an element. -/
def runAfter (q : Place) : List Node :=
  match q.address.getLast?, o.root.locate [] q.address.dropLast with
  | some i, some (_, parent) =>
    match around i parent.children with
    | some (_, _, run, _) => run
    | none => []
  | _, _ => []

/-- No section is in the text right after a node. -/
def HasPlainTails : Prop := ∀ q ∈ o.nodes, ∀ n ∈ o.runAfter q, n.isText = true

end Outline

/-- The expressions among some tokens, as far as an outline tells them. -/
def expressionsOf (tokens : List Token) : List Token :=
  (tokens.filter fun t => t.kind == .expression).map Token.outline

section Text

theorem joinFront_of_plain {nodes : List Node} (hapart : ApartTexts nodes)
    (hplain : ∀ n ∈ nodes.takeWhile Node.isCharacters, n.isText = true) :
    joinFront nodes = nodes := by
  cases nodes with
  | nil => rfl
  | cons n rest =>
    cases hn : n.isCharacters with
    | false =>
      refine joinFront_of_front fun x hx => ?_
      cases hx
      exact hn
    | true =>
      have htext : n.isText = true := hplain n (by simp [hn])
      have hfront : ∀ m ∈ rest.head?, m.isCharacters = false := by
        intro m hm
        cases rest with
        | nil => cases hm
        | cons m' rest =>
          cases hm
          rw [Bool.eq_false_iff]
          intro hc
          exact (List.isChain_cons_cons.1 hapart).1 ⟨htext, hplain m (by simp [hn, hc])⟩
      cases n with
      | text s =>
        have hrun : rest.takeWhile Node.isCharacters = [] := by
          cases rest with
          | nil => rfl
          | cons m rest => simp [hfront m rfl]
        have hdrop : rest.dropWhile Node.isCharacters = rest := by
          cases rest with
          | nil => rfl
          | cons m rest => simp [hfront m rfl]
        simp [joinFront, hn, hrun, hdrop, runText, Node.characters, String.join]
      | element _ _ | cdata _ | comment _ | instruction _ _ | reference _ => cases htext

theorem map_onlyText_cutNodes_eq {ph : Placeholders} {a : Address} {index : Nat} {nodes : List Node}
    (hapart : ApartTexts nodes)
    (htails : ∀ i before x run after, around i nodes = some (before, x, run, after) →
      (ph (a ++ [index + i])).isSome = true → ∀ n ∈ run, n.isText = true) :
    (cutNodes ph a index nodes).map Node.onlyText = nodes.map Node.onlyText := by
  induction nodes generalizing index with
  | nil => simp
  | cons n rest ih =>
    have hrest : ApartTexts rest := hapart.tail
    cases hn : n.isCharacters with
    | true =>
      rw [cutNodes_text hn, List.map_cons, List.map_cons, ih hrest]
      intro i before x run after hi
      exact htails i (n :: before) x run after (by simp [around, hn, hi])
    | false =>
      have htails' : ∀ i before x run after, around i rest = some (before, x, run, after) →
          (ph (a ++ [index + 1 + i])).isSome = true → ∀ m ∈ run, m.isText = true := by
        intro i before x run after hi hph
        refine htails (i + 1) (n :: before) x run after (by simp [around, hn, hi]) ?_
        rwa [show index + (i + 1) = index + 1 + i by omega]
      have honly : n.onlyText = .reference "" := by rw [Node.onlyText, hn]; rfl
      cases hs : ph.standsFor (a ++ [index]) n with
      | none =>
        rw [cutNodes_staying hn hs, List.map_cons, List.map_cons, ih hrest htails', Node.onlyText,
          isCharacters_cutNode, hn, honly]
        rfl
      | some e =>
        have hph : (ph (a ++ [index + 0])).isSome = true := by
          rw [Nat.add_zero, (Placeholders.of_standsFor hs).2]
          rfl
        have hplain : ∀ m ∈ rest.takeWhile Node.isCharacters, m.isText = true :=
          htails 0 [] n _ (rest.dropWhile Node.isCharacters) (by simp [around, hn]) hph
        rw [cutNodes_standing hs, List.map_cons, List.map_cons, map_onlyText_joinFront,
          ih hrest htails', ← map_onlyText_joinFront, joinFront_of_plain hrest hplain, honly]
        rfl

end Text

namespace Outline

variable {o : Outline} {q r : Place}

theorem mem_places (h : q ∈ o.nodes) : q ∈ o.root.places := (List.mem_filter.1 h).1

theorem apart_nodes (o : Outline) : Place.Apart o.nodes :=
  fun _ hq _ hr h => eq_of_mem_places (mem_places hq) (mem_places hr) h

theorem root_mem_nodes (o : Outline) : (⟨[], [], o.root⟩ : Place) ∈ o.nodes :=
  List.mem_filter.2 ⟨root_mem_places o.root, rfl⟩

theorem plain_of_not_node (hr : r ∈ o.root.places) (hn : r ∉ o.nodes)
    (he : o.selector.exposed r.tags = true) :
    r.tag.name.isIn o.selector.uris = false
      ∧ ∀ a ∈ r.tag.attributes, a.name.isIn o.selector.uris = false := by
  have habove : r.above.any o.selector.policy.shields = false := by
    rw [Selector.exposed, Place.tags, List.any_cons, Bool.not_or, Bool.and_eq_true] at he
    simpa using he.2
  have hnode : o.isNode r = false := by
    rw [Bool.eq_false_iff]
    exact fun h => hn (List.mem_filter.2 ⟨hr, h⟩)
  rw [isNode, Bool.or_eq_false_iff, habove, Bool.not_false, Bool.true_and, Bool.or_eq_false_iff,
    List.any_eq_false] at hnode
  exact ⟨hnode.2.1, fun a ha => by simpa using hnode.2.2 a ha⟩

theorem holdsText_eq (hjoined : o.root.IsJoined) (htails : o.HasPlainTails)
    (hr : r ∈ o.root.places) :
    Selector.holdsText o.nodes r = Selector.hasText r.element := by
  have hchildren : (cutNodes (Selector.gaps o.nodes) r.address 0 r.element.children).map
      Node.onlyText = r.element.children.map Node.onlyText := by
    refine map_onlyText_cutNodes_eq (hjoined.apartTexts hr) fun i before x run after hi hgap => ?_
    have hany : o.nodes.any (·.address == r.address ++ [i]) = true := by
      rw [Nat.zero_add, Selector.gaps] at hgap
      split at hgap
      · assumption
      · cases hgap
    obtain ⟨q, hq, ha⟩ := List.any_eq_true.1 hany
    have hrun : o.runAfter q = run := by
      rw [runAfter, eq_of_beq ha, List.getLast?_concat, List.dropLast_concat,
        mem_places_iff.1 hr]
      simp only [hi]
    exact hrun ▸ htails q hq
  rw [Selector.holdsText, hasText_eq, hasText_eq]
  exact congrArg (List.any · _) hchildren

def helperSites (o : Outline) (q : Place) : List Site :=
  (if q.tag.name.isIn o.selector.uris then
      (o.selector.plainExpressions q.tag).map (.attributeOf q) else [])
    ++ ((q.tag.attributes.filter (·.name.isIn o.selector.uris)).filter
      o.selector.holdsDelimiter).map (.attributeOf q)

theorem ownSitesAt_of_not_node (hjoined : o.root.IsJoined) (htails : o.HasPlainTails)
    (hr : r ∈ o.root.places) (hn : r ∉ o.nodes) :
    o.selector.ownSitesAt o.nodes r = o.sitesAt r := by
  have hnode : o.isNode r = false := by
    rw [Bool.eq_false_iff]
    exact fun h => hn (List.mem_filter.2 ⟨hr, h⟩)
  rw [Selector.ownSitesAt, sitesAt, holdsText_eq hjoined htails hr]
  cases he : o.selector.exposed r.tags with
  | false =>
    have hshields : r.tags.any o.selector.policy.shields = true := by
      simpa [Selector.exposed] using he
    have hattributes : r.tag.attributes.filter (o.isExpression r) = [] :=
      List.filter_eq_nil_iff.2 fun a _ => by simp [isExpression, hnode, he]
    rw [if_pos hshields, hattributes]
    rfl
  | true =>
    have hshields : r.tags.any o.selector.policy.shields = false := by
      simpa [Selector.exposed] using he
    obtain ⟨hname, hplain⟩ := plain_of_not_node hr hn he
    have hattributes : o.selector.plainExpressions r.tag
        = r.tag.attributes.filter (o.isExpression r) := by
      refine List.filter_congr fun a ha => ?_
      simp [isExpression, hplain a ha, he]
    rw [hshields, hname, hattributes]
    simp

theorem plainExpressions_append_perm (s : Selector) (t : Tag) :
    (s.plainExpressions t
      ++ (t.attributes.filter (·.name.isIn s.uris)).filter s.holdsDelimiter).Perm
      (t.attributes.filter s.holdsDelimiter) := by
  have hsplit := List.filter_append_perm (fun a : Attribute => a.name.isIn s.uris)
    (t.attributes.filter s.holdsDelimiter)
  rw [List.filter_filter, List.filter_filter] at hsplit
  rw [Selector.plainExpressions, List.filter_filter]
  refine List.perm_append_comm.trans ?_
  simpa only [Bool.and_comm] using hsplit

theorem sitesAt_node_perm (hjoined : o.root.IsJoined) (htails : o.HasPlainTails)
    (hq : q ∈ o.nodes) :
    (o.selector.ownSitesAt o.nodes q ++ o.helperSites q).Perm (o.sitesAt q) := by
  have hnode : o.isNode q = true := (List.mem_filter.1 hq).2
  have hall := (plainExpressions_append_perm o.selector q.tag).map (Site.attributeOf q)
  rw [List.map_append] at hall
  rw [Selector.ownSitesAt, helperSites, sitesAt, holdsText_eq hjoined htails (mem_places hq)]
  -- A shielded node has only the sites of the helpers that it is and carries.
  cases he : o.selector.exposed q.tags with
  | false =>
    have hshields : q.tags.any o.selector.policy.shields = true := by
      simpa [Selector.exposed] using he
    rw [if_pos hshields]
    cases hname : q.tag.name.isIn o.selector.uris with
    | true =>
      have hattributes : q.tag.attributes.filter (o.isExpression q)
          = q.tag.attributes.filter o.selector.holdsDelimiter :=
        List.filter_congr fun a _ => by simp [isExpression, hnode, hname]
      rw [hattributes]
      exact hall
    | false =>
      have hattributes : q.tag.attributes.filter (o.isExpression q)
          = (q.tag.attributes.filter (·.name.isIn o.selector.uris)).filter
              o.selector.holdsDelimiter := by
        rw [List.filter_filter]
        exact List.filter_congr fun a _ => by simp [isExpression, hnode, hname, he]
      rw [hattributes]
      exact .refl _
  | true =>
    have hshields : q.tags.any o.selector.policy.shields = false := by
      simpa [Selector.exposed] using he
    have hattributes : q.tag.attributes.filter (o.isExpression q)
        = q.tag.attributes.filter o.selector.holdsDelimiter :=
      List.filter_congr fun a _ => by simp [isExpression, he]
    rw [hshields, hattributes, Bool.true_and]
    simp only [Bool.false_eq_true, if_false, List.append_assoc]
    refine List.Perm.append_left _ ?_
    cases q.tag.name.isIn o.selector.uris with
    | true => exact hall
    | false => exact hall

theorem owner_of_mem_sitesAt {s : Site} (h : s ∈ o.sitesAt r) : s.owner = r := by
  rw [sitesAt, List.mem_append] at h
  rcases h with h | h
  · split at h
    · rw [List.mem_singleton.1 h, Site.owner]
    · cases h
  · obtain ⟨a, -, rfl⟩ := List.mem_map.1 h
    rfl

theorem filter_sites (o : Outline) (q : Place) : o.sites.filter (o.isNearestTo q)
    = (o.root.places.filter (Place.owns o.nodes q)).flatMap o.sitesAt := by
  have hsame : (o.root.places.filter fun _ => true).flatMap
        (fun r => (o.sitesAt r).filter (o.isNearestTo q))
      = (o.root.places.filter (Place.owns o.nodes q)).flatMap o.sitesAt := by
    refine flatMap_filter_congr fun r _ => ?_
    have howner : (o.sitesAt r).filter (o.isNearestTo q)
        = (o.sitesAt r).filter fun _ => Place.owns o.nodes q r :=
      List.filter_congr fun s hs => by rw [isNearestTo, owner_of_mem_sitesAt hs]
    rw [if_pos rfl, howner]
    cases Place.owns o.nodes q r <;> simp
  rw [List.filter_true] at hsame
  rw [sites, List.filter_flatMap, hsame]

theorem blockSites_perm (hjoined : o.root.IsJoined) (htails : o.HasPlainTails) (hq : q ∈ o.nodes) :
    (o.selector.ownSites o.root o.nodes q ++ o.helperSites q).Perm
      (o.sites.filter (o.isNearestTo q)) := by
  have hbelow : (q.below.filter (Place.owns o.nodes q)).flatMap (o.selector.ownSitesAt o.nodes)
      = (q.below.filter (Place.owns o.nodes q)).flatMap o.sitesAt := by
    refine List.flatMap_congr fun r hr => ?_
    obtain ⟨hr, howns⟩ := List.mem_filter.1 hr
    have hmem := ((mem_below_iff (mem_places hq)).1 hr).1
    rw [Place.owns_eq_of_mem_below hr, Bool.and_eq_true, Bool.not_eq_true'] at howns
    refine ownSitesAt_of_not_node hjoined htails hmem fun hnode => ?_
    rw [(any_address_iff (fun _ hn => mem_places hn) hmem).2 hnode] at howns
    cases howns.2
  rw [filter_sites, Selector.ownSites,
    filter_owns o.apart_nodes (fun _ hn => mem_places hn) hq, List.flatMap_cons, List.flatMap_cons,
    hbelow]
  refine List.Perm.trans ?_ ((sitesAt_node_perm hjoined htails hq).append_right _)
  rw [List.append_assoc, List.append_assoc]
  exact List.perm_append_comm.append_left _

theorem filter_block (o : Outline) (q : Place) :
    (o.block q).filter (fun t => t.kind == .expression)
      = (o.selector.ownSites o.root o.nodes q ++ o.helperSites q).map o.site := by
  have hsite : ∀ s, ((o.site s).kind == .expression) = true := by
    intro s
    cases s <;> rfl
  have hsites : ∀ sites : List Site, (sites.map o.site).filter (fun t => t.kind == .expression)
      = sites.map o.site := by
    intro sites
    rw [List.filter_eq_self]
    intro t ht
    obtain ⟨s, -, rfl⟩ := List.mem_map.1 ht
    exact hsite s
  have hnode : ((o.node q).kind == .expression) = false := by
    rw [node]
    split <;> rfl
  have helement : (o.elementPart q).filter (fun t => t.kind == .expression)
      = (if q.tag.name.isIn o.selector.uris then
          (o.selector.plainExpressions q.tag).map (.attributeOf q) else [] : List Site).map
            o.site := by
    rw [elementPart]
    split
    · have hmap : (o.selector.plainExpressions q.tag).map (fun a => o.site (.attributeOf q a))
          = ((o.selector.plainExpressions q.tag).map (.attributeOf q)).map o.site := by
        rw [List.map_map]
        rfl
      rw [List.filter_cons_of_neg (by simp), hmap, hsites]
    · rfl
  have hattributes : ((q.tag.attributes.filter (·.name.isIn o.selector.uris)).flatMap
        (o.attributePart q)).filter (fun t => t.kind == .expression)
      = (((q.tag.attributes.filter (·.name.isIn o.selector.uris)).filter
          o.selector.holdsDelimiter).map (.attributeOf q) : List Site).map o.site := by
    induction q.tag.attributes.filter (·.name.isIn o.selector.uris) with
    | nil => rfl
    | cons a attributes ih =>
      rw [List.flatMap_cons, List.filter_append, ih, attributePart,
        List.filter_cons_of_neg (by simp)]
      cases hd : o.selector.holdsDelimiter a with
      | true =>
        rw [List.filter_cons_of_pos hd]
        exact congrArg (· ++ _) (hsites [.attributeOf q a])
      | false =>
        rw [List.filter_cons_of_neg (by simp [hd])]
        rfl
  rw [block, List.filter_cons_of_neg (by simp [hnode]), List.filter_append, List.filter_append,
    hsites, helement, hattributes, helperSites, List.map_append, List.map_append, List.append_assoc]

end Outline

section Partition

variable {κ α : Type} {g : κ → α → Bool}

theorem perm_flatMap_filter {ks : List κ} {xs : List α}
    (hapart : ks.Pairwise fun k l => ∀ x ∈ xs, g k x = true → g l x = false)
    (hall : ∀ x ∈ xs, ∃ k ∈ ks, g k x = true) :
    (ks.flatMap fun k => xs.filter (g k)).Perm xs := by
  induction ks generalizing xs with
  | nil =>
    cases xs with
    | nil => exact .refl _
    | cons x xs =>
      obtain ⟨k, hk, -⟩ := hall x (List.mem_cons_self ..)
      cases hk
  | cons k ks ih =>
    obtain ⟨hk, hks⟩ := List.pairwise_cons.1 hapart
    have hrest : (ks.flatMap fun l => xs.filter (g l))
        = ks.flatMap fun l => (xs.filter fun x => !g k x).filter (g l) := by
      refine List.flatMap_congr fun l hl => ?_
      rw [List.filter_filter]
      refine List.filter_congr fun x hx => ?_
      cases hkx : g k x with
      | false => simp
      | true => simp [hk l hl x hx hkx]
    have hperm : (ks.flatMap fun l => (xs.filter fun x => !g k x).filter (g l)).Perm
        (xs.filter fun x => !g k x) := by
      refine ih (hks.imp fun h x hx => h x (List.mem_filter.1 hx).1) fun x hx => ?_
      obtain ⟨hx, hnot⟩ := List.mem_filter.1 hx
      obtain ⟨l, hl, hlx⟩ := hall x hx
      rcases List.mem_cons.1 hl with rfl | hl
      · rw [hlx] at hnot
        cases hnot
      · exact ⟨l, hl, hlx⟩
    rw [List.flatMap_cons, hrest]
    exact (hperm.append_left _).trans (List.filter_append_perm (g k) xs)

end Partition

namespace Outline

variable {o : Outline}

theorem exists_owner (o : Outline) (r : Place) :
    ∃ q ∈ o.nodes, nodeOver? o.nodes r.address = some q := by
  cases hover : nodeOver? o.nodes r.address with
  | some q => exact ⟨q, ((nodeOver?_eq_some_iff o.apart_nodes).1 hover).1, rfl⟩
  | none =>
    rw [nodeOver?, Option.or_eq_none_iff, find?_eq_none_iff, nodeAbove?_eq_none_iff] at hover
    have hroot := hover.2 _ o.root_mem_nodes List.nil_prefix
    exact absurd hroot (hover.1 _ o.root_mem_nodes)

/-- Every site has one node that is nearest to it. -/
theorem sites_perm (o : Outline) :
    ((byDepth o.nodes).flatMap fun q => o.sites.filter (o.isNearestTo q)).Perm o.sites := by
  have hnodup : (byDepth o.nodes).Nodup :=
    (byDepth_perm o.nodes).nodup_iff.2 (nodup_of_pairwise (o.root.pairwise_places.filter _))
  refine perm_flatMap_filter (hnodup.imp_of_mem ?_) fun s _ => ?_
  · intro q r hq hr hqr s _ hqs
    rw [isNearestTo, Place.owns_iff o.apart_nodes (mem_byDepth.1 hq)] at hqs
    rw [Bool.eq_false_iff, ne_eq, isNearestTo, Place.owns_iff o.apart_nodes (mem_byDepth.1 hr), hqs]
    exact fun h => hqr (Option.some.inj h)
  · obtain ⟨q, hq, hover⟩ := o.exists_owner s.owner
    exact ⟨q, mem_byDepth.2 hq, (Place.owns_iff o.apart_nodes hq).2 hover⟩

end Outline

/-- The expressions in a block and the sites that its node is nearest to. -/
theorem Pass.expressionsOf_blockTokens {p : Pass} {policy : Policy} {root : Element}
    {blocks : List Block} (hp : Starts policy root p) (hblocks : p.Blocks root blocks)
    (he : "" ∉ p.selector.uris) (hjoined : root.IsJoined) (htails : (p.outline root).HasPlainTails)
    {b : Block} (hb : b ∈ blocks) :
    (expressionsOf (p.blockTokens (p.selector.nodes root) b)).Perm
      (((p.outline root).sites.filter ((p.outline root).isNearestTo b.place)).map
        (p.outline root).site) := by
  have hnode : b.place ∈ (p.outline root).nodes := by
    rw [nodes_outline he]
    exact hblocks.mem_nodes hb
  have hfilter : expressionsOf (p.blockTokens (p.selector.nodes root) b)
      = ((p.outline root).block b.place).filter fun t => t.kind == .expression := by
    rw [← outline_block hp hblocks he hb, List.filter_map]
    rfl
  rw [hfilter, Outline.filter_block]
  exact (Outline.blockSites_perm hjoined htails hnode).map _

namespace Document

/-- The expressions of a stream and the sites of its document, which is joined as all documents are
that were loaded, unless names in no namespace are helpers or a section follows a node. Each
expression is in the block of the node nearest to its site. -/
theorem lex_expressions {policy : Policy} {d : Markup.Document} {file : Option String}
    {stream : LexedStream} (hjoined : d.root.IsJoined)
    (h : (lex policy d file).run.1 = .ok stream) :
    ∃ (o : Outline) (blocks : Place → List Token), o.IsOf policy d.root
      ∧ ("" ∉ o.selector.uris → o.HasPlainTails →
        stream.toList = property .xmlVersion d.version :: property .xmlEncoding d.encoding
            :: (byDepth o.nodes).flatMap blocks
          ∧ (∀ q ∈ o.nodes, (blocks q).head?.map Token.outline = some (o.node q)
            ∧ ((blocks q).filterMap Token.node?).length = 1
            ∧ (expressionsOf (blocks q)).Perm ((o.sites.filter (o.isNearestTo q)).map o.site))
          ∧ (expressionsOf stream.toList).Perm (o.sites.map o.site)) := by
  obtain ⟨p, blocks, hp, -, hblocks, hstream⟩ := lex_ok h
  obtain ⟨blockAt, hblockAt⟩ := hblocks.exists_blockAt
  let tokens (q : Place) : List Token := p.blockTokens (p.selector.nodes d.root) (blockAt q)
  refine ⟨p.outline d.root, tokens, hp.isOf, fun he htails => ?_⟩
  have hnodes : (p.outline d.root).nodes = p.selector.nodes d.root := Pass.nodes_outline he
  have htokens : ∀ b ∈ blocks, tokens b.place = p.blockTokens (p.selector.nodes d.root) b :=
    fun b hb => congrArg (p.blockTokens (p.selector.nodes d.root)) (hblockAt b hb)
  have hall : stream.toList = property .xmlVersion d.version :: property .xmlEncoding d.encoding
      :: (byDepth (p.outline d.root).nodes).flatMap tokens := by
    have hflat : blocks.flatMap (p.blockTokens (p.selector.nodes d.root))
        = (byDepth (p.selector.nodes d.root)).flatMap tokens := by
      rw [← hblocks.places, List.flatMap_map]
      exact List.flatMap_congr fun b hb => (htokens b hb).symm
    rw [hstream, hnodes, ← hflat]
    rfl
  have hexpressions : ∀ q ∈ (p.outline d.root).nodes, (expressionsOf (tokens q)).Perm
      (((p.outline d.root).sites.filter ((p.outline d.root).isNearestTo q)).map
        (p.outline d.root).site) := by
    intro q hq
    obtain ⟨b, hb, rfl⟩ := hblocks.exists_block (hnodes ▸ hq)
    rw [htokens b hb]
    exact Pass.expressionsOf_blockTokens hp hblocks he hjoined htails hb
  refine ⟨hall, fun q hq => ⟨?_, ?_, hexpressions q hq⟩, ?_⟩
  · obtain ⟨b, hb, rfl⟩ := hblocks.exists_block (hnodes ▸ hq)
    rw [htokens b hb, ← List.head?_map, Pass.outline_block hp hblocks he hb]
    rfl
  · obtain ⟨b, hb, rfl⟩ := hblocks.exists_block (hnodes ▸ hq)
    obtain ⟨_, _, -, hdescribes⟩ := hblocks.describes b hb
    rw [htokens b hb, Pass.filterMap_node?_block hdescribes]
    rfl
  · have hflat : expressionsOf stream.toList
        = (byDepth (p.outline d.root).nodes).flatMap fun q => expressionsOf (tokens q) := by
      rw [hall, expressionsOf, List.filter_cons_of_neg (by simp [property]),
        List.filter_cons_of_neg (by simp [property]), List.filter_flatMap, List.map_flatMap]
      rfl
    have hperm := ((p.outline d.root).sites_perm).map (p.outline d.root).site
    rw [List.map_flatMap] at hperm
    rw [hflat]
    exact (List.Perm.flatMap_left _ fun q hq => hexpressions q (mem_byDepth.1 hq)).trans hperm

theorem lex_expressions_sample : ∃ stream, (lex .standard sample none).run.1 = .ok stream
    ∧ (expressionsOf stream.toList).Perm
      (let o : Outline := ⟨⟨["urn:x"], .standard, fun _ => ""⟩, .sha1, sample.root⟩
      o.sites.map o.site) := by
  obtain ⟨stream, h⟩ := Except.exists_of_isOk
    (show (lex .standard sample none).run.1.isOk = true by decide +kernel)
  have hjoined : sample.root.IsJoined := by
    simp [sample, Element.IsJoined, Element.node, Node.IsJoined, AreJoined, ApartTexts, Node.isText]
  obtain ⟨o, blocks, ho, hexpressions⟩ := lex_expressions hjoined h
  obtain rfl := eq_of_isOf_sample ho
  have htails : Outline.HasPlainTails
      ⟨⟨["urn:x"], .standard, fun _ => ""⟩, .sha1, sample.root⟩ := by
    rw [Outline.HasPlainTails]
    decide +kernel
  exact ⟨stream, h, (hexpressions (by decide) htails).2.2⟩

/-- `<!DOCTYPE r [<!ENTITY o "X">]><r t="%&o;}"/>` -/
def sampleWithParted : Markup.Document where
  version := "1.0"
  encoding := "UTF-8"
  leading := []
  doctype := some ⟨"r", none, none, [.entity ⟨false, "o", .literal "X" "X"⟩]⟩
  before := []
  root :=
    ⟨⟨.bare "r", [], [⟨.bare "t", [.text "%", .reference "o", .text "\x7d"]⟩], 1⟩, []⟩
  after := []

/-- A delimiter that a reference parts, as it is written and in what it stands for, gives an
expression. -/
theorem lex_expressions_references :
    (Policy.standard.classify sampleWithParted.root).run.1.toOption = some []
      ∧ sampleWithParted.root.Lacks "__N_-_O_-_D_-_E__" ∧ sampleWithParted.root.IsJoined
      ∧ (∀ expand ∈ [fun name => String.ofList (printReference name), sampleWithParted.expand],
        let o : Outline := ⟨⟨[], .standard, expand⟩, .sha1, sampleWithParted.root⟩
        o.HasPlainTails ∧ o.sites.length = 0)
      ∧ ((lex .standard sampleWithParted none).run.1.toOption.map fun stream =>
          (expressionsOf stream.toList).length) = some 1 := by
  refine ⟨by decide +kernel, ?_, ⟨trivial, .nil⟩, ?_, by decide +kernel⟩
  · rw [Element.Lacks]
    decide +kernel
  · simp only [Outline.HasPlainTails]
    decide +kernel

end Document

end TemplateLexer
