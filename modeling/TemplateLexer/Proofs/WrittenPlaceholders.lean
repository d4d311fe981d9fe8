import TemplateLexer.Proofs.Siblings
/-!
Elements of a document that have the name of placeholders. They are told from placeholders by the
ids written on them alone, and ids can be foreseen: where such an element has the id of a node that
was worked on before, it is taken for what that node left behind.
-/

set_option autoImplicit false

namespace TemplateLexer

open Markup

namespace Working

variable {p : Pass} {m : Marker} {w w' : Work}

theorem resolve_done {t : Tag} {id : String} (h : resolve p m t w = .ok (id, w')) :
    id ∈ w.done := by
  obtain ⟨v, mid, hv, h₁⟩ := bind_ok h
  obtain ⟨rfl, rfl⟩ := get_ok hv
  split at h₁
  · rename_i hdone
    rw [(pure_ok h₁).1]
    simpa using hdone
  · exact (fail_ok h₁).elim

theorem mapM_resolve_done {places : List Place} {ids : List String}
    (h : (places.mapM fun q => resolve p m q.tag) w = .ok (ids, w')) : ∀ id ∈ ids, id ∈ w.done := by
  induction places generalizing ids w' with
  | nil =>
    obtain ⟨rfl, -⟩ := pure_ok h
    exact fun id hid => absurd hid List.not_mem_nil
  | cons q places ih =>
    rw [List.mapM_cons] at h
    obtain ⟨id, mid, hid, h₁⟩ := bind_ok h
    obtain ⟨ids', mid', hids, h₂⟩ := bind_ok h₁
    obtain ⟨rfl, -⟩ := pure_ok h₂
    obtain rfl := (reads_resolve p m q.tag).eq hid
    intro id' hid'
    rcases List.mem_cons.1 hid' with rfl | hid'
    · exact resolve_done hid
    · exact ih hids id' hid'

theorem children_done {ids : List String} (h : children p m w = .ok (ids, w')) :
    ∀ id ∈ ids, id ∈ w.done := by
  obtain ⟨selections, mid, hselections, h₁⟩ := bind_ok h
  obtain ⟨q, mid', hq, h₂⟩ := bind_ok h₁
  obtain ⟨-, rfl⟩ := ofExcept_ok hselections
  obtain rfl := (reads_placeAt _).eq hq
  exact mapM_resolve_done h₂

theorem next?_done {id : String} (h : next? p m w = .ok (some id, w')) : id ∈ w.done := by
  rw [next?] at h
  split at h
  · cases (pure_ok h).1
  · obtain ⟨found, mid, hfound, h₁⟩ := bind_ok h
    obtain rfl := (reads_sibling? m true).eq hfound
    split at h₁
    · cases (pure_ok h₁).1
    · split at h₁
      · obtain ⟨id', mid', hid, h₂⟩ := bind_ok h₁
        cases (pure_ok h₂).1
        exact resolve_done hid
      · cases (pure_ok h₁).1

end Working

section Told

variable {policy : Policy} {root : Element} {name : String} {o : Outline} {nodes : List Place}
  {fields : Place → NodeFields}

/-- How the tokens of nodes tell what is inside and beside them where elements of the document may
have the name of placeholders. All ids but that of the node before are looked up among the nodes
that have a token. -/
structure TellsWritten (policy : Policy) (name : String) (root : Element) (o : Outline)
    (nodes : List Place) (fields : Place → NodeFields) : Prop where
  children : ∀ q ∈ nodes, (fields q).children
    = (if q.tag.name.isPlainly name then [(o.selector.plainTag q.tag).id?.getD ""] else [])
      ++ (q.below.filter (Place.isNearest nodes q)).filterMap
        (Place.idInside? (·.name.isPlainly name) nodes o.idAt)
  previous : ∀ q ∈ nodes, (fields q).previous
    = (root.before? q).bind (Place.idBefore? policy.isPlaceholder nodes o.idAt)
  next : ∀ q ∈ nodes, (fields q).next
    = (root.after? q).bind (Place.idInside? policy.isPlaceholder nodes o.idAt)
  later : ∀ q ∈ nodes, ∀ id, id ∈ (fields q).children ∨ (fields q).next = some id →
    ∃ n ∈ nodes, q.IsHigher n ∧ id = o.idAt n.address

/-- Whether the ids that elements with the name of placeholders carry are those of nodes that come
after the node in which the elements are met. A node itself is met without its helper
attributes. -/
structure CarriesIds (name : String) (root : Element) (o : Outline) (nodes : List Place) :
    Prop where
  ofNode : ∀ q ∈ nodes, q.tag.name.isPlainly name = true →
    ∃ n ∈ nodes, q.IsHigher n ∧ (o.selector.plainTag q.tag).id?.getD "" = o.idAt n.address
  inNode : ∀ r ∈ root.places, r ∉ nodes → r.tag.name.isPlainly name = true →
    ∀ q ∈ nodes, nodeAbove? nodes r.address = some q →
      ∃ n ∈ nodes, q.IsHigher n ∧ r.tag.id?.getD "" = o.idAt n.address

/-- A node lists what is written on the elements inside it, so that all of it is looked up. -/
theorem TellsWritten.carriesIds (h : TellsWritten policy name root o nodes fields)
    (hplaces : ∀ q ∈ nodes, q ∈ root.places) : CarriesIds name root o nodes := by
  have happart : Place.Apart nodes :=
    fun _ hx _ hy ha => eq_of_mem_places (hplaces _ hx) (hplaces _ hy) ha
  refine ⟨fun q hq hplain => h.later q hq _ (.inl ?_), fun r hr hfree hplain q hq habove =>
    h.later q hq _ (.inl ?_)⟩
  · rw [h.children q hq, if_pos hplain]
    exact List.mem_append_left _ (List.mem_singleton_self _)
  · obtain ⟨-, hpre, hne, -⟩ := (nodeAbove?_eq_some_iff happart).1 habove
    have hbelow : r ∈ q.below.filter (Place.isNearest nodes q) :=
      List.mem_filter.2 ⟨(mem_below_iff (hplaces q hq)).2 ⟨hr, hpre, hne⟩,
        (Place.isNearest_iff happart hq).2 habove⟩
    have hany : nodes.any (·.address == r.address) = false := by
      rw [List.any_eq_false]
      intro n hn ha
      exact hfree (eq_of_mem_places (hplaces n hn) hr (by simpa using ha) ▸ hn)
    have hinside : r.idInside? (·.name.isPlainly name) nodes o.idAt
        = some (r.tag.id?.getD "") := by
      rw [Place.idInside?, hany, if_neg Bool.false_ne_true, if_pos hplain]
    rw [h.children q hq]
    exact List.mem_append_right _ (List.mem_filterMap.2 ⟨r, hbelow, hinside⟩)

variable {p : Pass} {blocks : List Block}

theorem Pass.Starts.idInside?_eq (hp : p.Starts policy root) {taken : Tag → Bool} {r : Place}
    (hr : r ∈ root.places) : r.idInside? taken nodes p.idAt
      = r.idInside? taken nodes (p.outline root).idAt := by
  rw [Place.idInside?, Place.idInside?, hp.idAt_eq hr]

theorem Pass.Blocks.tellsWritten (h : p.Blocks root blocks) (hp : Starts policy root p)
    (hname : policy.Names name)
    (hfields : ∀ b ∈ blocks, fields b.place = p.nodeFields (p.selector.nodes root) b) :
    TellsWritten policy name root (p.outline root) (p.selector.nodes root) fields := by
  refine ⟨fun q hq => ?_, fun q hq => ?_, fun q hq => ?_, fun q hq id hid => ?_⟩
  all_goals
    obtain ⟨b, hb, rfl⟩ := h.exists_block hq
    obtain ⟨before, after, hsplit, hdescribes⟩ := h.describes b hb
    have hfield := hfields b hb
  · rw [hfield]
    refine (h.children_told hp hname hb).trans (congrArg _ (List.filterMap_congr fun r hr => ?_))
    have hbelow := (mem_below_iff (Selector.mem_places_of_mem_nodes hq)).1 (List.mem_filter.1 hr).1
    exact hp.idInside?_eq hbelow.1
  · obtain ⟨ts, hrun⟩ := hdescribes.previous
    rw [hfield]
    refine (Working.previous?_told hp hsplit (by rfl) hrun).trans ?_
    refine Option.bind_congr fun r hr => ?_
    rw [Place.idBefore?, Place.idBefore?, hp.idAt_eq (Element.before?_eq_some_iff.1 hr).1]
  · obtain ⟨ts, hrun⟩ := hdescribes.next
    rw [hfield]
    refine (Working.next?_told hp hname hsplit (by rfl) hrun).trans ?_
    exact Option.bind_congr fun r hr => hp.idInside?_eq (Element.after?_eq_some_iff.1 hr).1
  · have hdone : id ∈ after.map fun n => p.idAt n.address := by
      rw [hfield] at hid
      rcases hid with hid | hid
      · obtain ⟨ts, hrun⟩ := hdescribes.children
        exact Working.children_done hrun id hid
      · obtain ⟨ts, hrun⟩ := hdescribes.next
        have hnext : b.next = some id := hid
        rw [hnext] at hrun
        exact Working.next?_done hrun
    obtain ⟨n, hn, rfl⟩ := List.mem_map.1 hdone
    obtain ⟨hnode, hhigher⟩ := (mem_of_byDepth_iff (p.selector.pairwise_nodes root) hsplit).1 hn
    exact ⟨n, hnode, hhigher, hp.idAt_eq (Selector.mem_places_of_mem_nodes hnode)⟩

end Told

namespace Document

/-- What a stream tells where elements of the document have the name of placeholders. -/
theorem lex_writtenPlaceholders {policy : Policy} {name : String} {d : Markup.Document}
    {file : Option String} {stream : LexedStream} (hname : policy.Names name)
    (h : (lex policy d file).run.1 = .ok stream) :
    ∃ (o : Outline) (nodes : List Place) (fields : Place → NodeFields),
      o.IsOf policy d.root ∧ nodes = o.selector.nodes d.root
        ∧ stream.toList.filterMap Token.node? = (byDepth nodes).map fields
        ∧ (∀ q ∈ nodes, (fields q).id = o.idAt q.address ∧ (fields q).path = o.pathAt q.address)
        ∧ TellsWritten policy name d.root o nodes fields
        ∧ CarriesIds name d.root o nodes := by
  obtain ⟨p, blocks, hp, -, hblocks, hstream⟩ := lex_ok h
  obtain ⟨blockAt, hblockAt⟩ := hblocks.exists_blockAt
  let fields (q : Place) : NodeFields := p.nodeFields (p.selector.nodes d.root) (blockAt q)
  have hfields : ∀ b ∈ blocks, fields b.place = p.nodeFields (p.selector.nodes d.root) b :=
    fun b hb => congrArg (p.nodeFields (p.selector.nodes d.root)) (hblockAt b hb)
  have hplaces : ∀ q ∈ p.selector.nodes d.root, q ∈ d.root.places :=
    fun _ hq => Selector.mem_places_of_mem_nodes hq
  have hall : stream.toList.filterMap Token.node?
      = (byDepth (p.selector.nodes d.root)).map fields := by
    rw [hstream, nodeFields_stream hblocks, ← hblocks.places, List.map_map]
    exact List.map_congr_left fun b hb => (hfields b hb).symm
  have htold : ∀ q ∈ p.selector.nodes d.root,
      (fields q).id = (p.outline d.root).idAt q.address
        ∧ (fields q).path = (p.outline d.root).pathAt q.address := by
    intro q hq
    obtain ⟨b, hb, rfl⟩ := hblocks.exists_block hq
    rw [hfields b hb]
    exact ⟨hp.idAt_eq (hplaces _ hq), hp.pathAt_eq (hplaces _ hq)⟩
  have htells := hblocks.tellsWritten hp hname hfields
  exact ⟨p.outline d.root, p.selector.nodes d.root, fields, hp.isOf, rfl, hall, htold, htells,
    htells.carriesIds hplaces⟩

/-- The root of `<r xmlns:x="urn:x"><__N_-_O_-_D_-_E__ id="…"/><x:n/></r>`, with the id of the path
of the helper. -/
def forged : Markup.Document where
  version := "1.0"
  encoding := "UTF-8"
  leading := []
  doctype := none
  before := []
  root :=
    let id := Attribute.mk (.bare "id") [.text "0763b4dac9ab69a5ef4a54bcd8f3d32028b71173"]
    ⟨⟨.bare "r", [⟨some "x", "urn:x"⟩], [], 1⟩,
      [.element ⟨.bare "__N_-_O_-_D_-_E__", [], [id], 1⟩ [],
        .element ⟨⟨some "x", some "urn:x", "n"⟩, [], [], 1⟩ []]⟩
  after := []

theorem lex_writtenPlaceholders_sample : ∃ stream, (lex .standard forged none).run.1 = .ok stream
    ∧ (let o : Outline := ⟨⟨["urn:x"], .standard, fun _ => ""⟩, .sha1, forged.root⟩
      ∃ fields : Place → NodeFields,
        stream.toList.filterMap Token.node?
            = (byDepth (o.selector.nodes forged.root)).map fields
          ∧ TellsWritten .standard "__N_-_O_-_D_-_E__" forged.root o
            (o.selector.nodes forged.root) fields
          ∧ CarriesIds "__N_-_O_-_D_-_E__" forged.root o (o.selector.nodes forged.root)) := by
  obtain ⟨stream, h⟩ := Except.exists_of_isOk
    (show (lex .standard forged none).run.1.isOk = true by decide +kernel)
  obtain ⟨o, nodes, fields, ho, rfl, hall, -, htells, hcarries⟩ :=
    lex_writtenPlaceholders Policy.names_standard h
  obtain rfl : o = ⟨⟨["urn:x"], .standard, fun _ => ""⟩, .sha1, forged.root⟩ :=
    ho.eq (by decide +kernel) Policy.hashing_standard
  exact ⟨stream, h, fields, hall, htells, hcarries⟩

/-- An element of the name with the id of a node is taken for a child of the node around it, and for
the node before the one whose id it has. -/
theorem lex_writtenPlaceholders_forged :
    ¬forged.root.Lacks "__N_-_O_-_D_-_E__"
      ∧ (let id := Digest.sha1.hex "/r/x:n"
        ((lex .standard forged none).run.1.toOption.map fun stream =>
          (stream.toList.filterMap Token.node?).map fun f => (f.path, f.children, f.previous))
        = some [("/r", [id, id], none), ("/r/x:n", [], some id)]) := by
  refine ⟨?_, by decide +kernel⟩
  rw [Element.Lacks]
  decide +kernel

end Document

end TemplateLexer
