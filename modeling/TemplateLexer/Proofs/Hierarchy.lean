import TemplateLexer.Proofs.NodeContent
/-!
The hierarchy of nodes. A node knows the node nearest around it, and a node lists those that know
it. A walk from the root that follows these lists meets all nodes in document order.
-/

set_option autoImplicit false

namespace TemplateLexer

open Markup

section Under

variable {nodes : List Place} {q r : Place}

def nodesUnder (nodes : List Place) (q : Place) : List Place :=
  nodes.filter fun r => decide (q.address <+: r.address)

def nodesInside (nodes : List Place) (q : Place) : List Place :=
  nodes.filter (Place.isNearest nodes q)

theorem mem_nodesUnder : r ∈ nodesUnder nodes q ↔ r ∈ nodes ∧ q.address <+: r.address := by
  rw [nodesUnder, List.mem_filter, decide_eq_true_iff]

theorem mem_nodesInside (h : Place.Apart nodes) (hq : q ∈ nodes) :
    r ∈ nodesInside nodes q ↔ r ∈ nodes ∧ nodeAbove? nodes r.address = some q := by
  rw [nodesInside, List.mem_filter, Place.isNearest_iff h hq]

theorem exists_mem_nodesInside (h : Place.Apart nodes) (hq : q ∈ nodes) (hr : r ∈ nodes)
    (hpre : q.address <+: r.address) (hne : q.address ≠ r.address) :
    ∃ n ∈ nodesInside nodes q, n.address <+: r.address := by
  induction hlen : r.address.length using Nat.strongRecOn generalizing r with
  | ind len ih =>
    cases habove : nodeAbove? nodes r.address with
    | none => exact absurd (nodeAbove?_eq_none_iff.1 habove q hq hpre) hne
    | some n =>
      obtain ⟨hn, hnpre, hnne, hnearest⟩ := (nodeAbove?_eq_some_iff h).1 habove
      have hqn := hnearest q hq hpre hne
      by_cases he : q.address = n.address
      · obtain rfl := h q hq n hn he
        exact ⟨r, (mem_nodesInside h hq).2 ⟨hr, habove⟩, List.prefix_refl _⟩
      · have hlt := Address.length_lt_of_prefix_of_ne hnpre hnne
        obtain ⟨m, hm, hmn⟩ := ih _ (hlen ▸ hlt) hn hqn he rfl
        exact ⟨m, hm, hmn.trans hnpre⟩

theorem address_lt_of_nodesInside (h : Place.Apart nodes) (hq : q ∈ nodes) {r r' x y : Place}
    (hr : r ∈ nodesInside nodes q) (hr' : r' ∈ nodesInside nodes q) (hlt : r.address < r'.address)
    (hx : r.address <+: x.address) (hy : r'.address <+: y.address) : x.address < y.address := by
  obtain ⟨hrmem, hrabove⟩ := (mem_nodesInside h hq).1 hr
  obtain ⟨-, hrabove'⟩ := (mem_nodesInside h hq).1 hr'
  obtain ⟨-, hqr, hqne, -⟩ := (nodeAbove?_eq_some_iff h).1 hrabove
  obtain ⟨-, -, -, hnearest⟩ := (nodeAbove?_eq_some_iff h).1 hrabove'
  have hpre : ¬r.address <+: r'.address := by
    intro hpre
    have hne : r.address ≠ r'.address := fun he => List.lt_irrefl _ (he ▸ hlt)
    have hrq := hnearest r hrmem hpre hne
    exact hqne (hqr.eq_of_length (Nat.le_antisymm hqr.length_le hrq.length_le))
  obtain ⟨a, ha⟩ := hx
  obtain ⟨b, hb⟩ := hy
  rw [← ha, ← hb]
  exact Address.lt_append_of_not_prefix hlt hpre a b

theorem nodesUnder_eq (hnodes : nodes.Pairwise fun p q => p.address < q.address)
    (h : Place.Apart nodes) (hq : q ∈ nodes) :
    nodesUnder nodes q = q :: (nodesInside nodes q).flatMap (nodesUnder nodes) := by
  have hsorted : (q :: (nodesInside nodes q).flatMap (nodesUnder nodes)).Pairwise
      fun x y => x.address < y.address := by
    refine .cons ?_ (List.pairwise_flatMap.2 ⟨fun r _ => hnodes.filter _, ?_⟩)
    · intro x hx
      obtain ⟨r, hr, hx⟩ := List.mem_flatMap.1 hx
      obtain ⟨-, hrx⟩ := mem_nodesUnder.1 hx
      obtain ⟨-, hpre, hne, -⟩ := (nodeAbove?_eq_some_iff h).1 ((mem_nodesInside h hq).1 hr).2
      refine Address.lt_of_prefix_of_ne (hpre.trans hrx) fun he => hne ?_
      exact hpre.eq_of_length (Nat.le_antisymm hpre.length_le (he ▸ hrx.length_le))
    · refine (hnodes.filter _).imp_of_mem fun {r r'} hr hr' hlt x hx y hy => ?_
      exact address_lt_of_nodesInside h hq hr hr' hlt (mem_nodesUnder.1 hx).2
        (mem_nodesUnder.1 hy).2
  refine eq_of_mem_iff (hnodes.filter _) hsorted fun x => ?_
  rw [List.mem_cons, List.mem_flatMap, mem_nodesUnder]
  constructor
  · rintro ⟨hx, hpre⟩
    by_cases he : q.address = x.address
    · exact .inl (h x hx q hq he.symm)
    · obtain ⟨r, hr, hrx⟩ := exists_mem_nodesInside h hq hx hpre he
      exact .inr ⟨r, hr, mem_nodesUnder.2 ⟨hx, hrx⟩⟩
  · rintro (rfl | ⟨r, hr, hx⟩)
    · exact ⟨hq, List.prefix_refl _⟩
    · obtain ⟨hxmem, hrx⟩ := mem_nodesUnder.1 hx
      obtain ⟨-, hpre, -, -⟩ := (nodeAbove?_eq_some_iff h).1 ((mem_nodesInside h hq).1 hr).2
      exact ⟨hxmem, hpre.trans hrx⟩

end Under

namespace Working

variable {p : Pass} {m : Marker}

theorem resolve_ok {t : Tag} {id : String} {w w' : Work} (h : resolve p m t w = .ok (id, w')) :
    id = t.id?.getD "" := by
  obtain ⟨v, mid, -, h⟩ := bind_ok h
  split at h
  · exact (pure_ok h).1
  · exact (fail_ok h).elim

theorem mapM_resolve_ok {places : List Place} {ids : List String} {w w' : Work}
    (h : (places.mapM fun q => resolve p m q.tag) w = .ok (ids, w')) :
    ids = places.map fun q => q.tag.id?.getD "" := by
  induction places generalizing ids w with
  | nil => exact (pure_ok h).1
  | cons q places ih =>
    rw [List.mapM_cons] at h
    obtain ⟨id, mid, hid, h⟩ := bind_ok h
    obtain ⟨ids', mid', hids, h⟩ := bind_ok h
    obtain ⟨rfl, rfl⟩ := pure_ok h
    rw [resolve_ok hid, ih hids]
    rfl

theorem children_ok {policy : Policy} {name : String} (hname : policy.Names name)
    (hpolicy : p.policy = policy) {ids : List String} {w w' : Work}
    (h : children p m w = .ok (ids, w')) :
    ∃ q, placeAt m.address w = .ok (q, w)
      ∧ ids = ((q :: q.below).filter fun r => r.tag.name.isPlainly name).map
          fun r => r.tag.id?.getD "" := by
  obtain ⟨selections, mid, hselections, h₁⟩ := bind_ok h
  obtain ⟨q, mid', hq, h₂⟩ := bind_ok h₁
  obtain ⟨hplaceholders, rfl⟩ := ofExcept_ok hselections
  obtain rfl := (reads_placeAt _).eq hq
  rw [hpolicy] at hplaceholders
  obtain rfl := hname.placeholders hplaceholders
  have hids := mapM_resolve_ok h₂
  simp only [Policy.Names.holds] at hids
  exact ⟨q, hq, hids⟩

end Working

theorem map_filter_eq_filterMap {α β : Type} (p : α → Bool) (f : α → β) (xs : List α) :
    (xs.filter p).map f = xs.filterMap fun x => if p x then some (f x) else none := by
  rw [← List.filterMap_eq_map, List.filterMap_filter]
  rfl

namespace Markup

/-- The id by which an element is known when the nodes inside and after a node are done: that of the
node that it was, or the one written on it if it is taken for a placeholder. -/
def Place.idInside? (taken : Tag → Bool) (nodes : List Place) (idAt : Address → String)
    (r : Place) : Option String :=
  if nodes.any (·.address == r.address) then some (idAt r.address)
  else if taken r.tag then some (r.tag.id?.getD "") else none

theorem Place.idInside?_of_not_taken {taken : Tag → Bool} {nodes : List Place}
    {idAt : Address → String} {r : Place} (h : taken r.tag = false) :
    r.idInside? taken nodes idAt
      = if nodes.any (·.address == r.address) then some (idAt r.address) else none := by
  rw [idInside?, h, if_neg Bool.false_ne_true]

end Markup

namespace Pass

variable {p : Pass} {policy : Policy} {root : Element} {name : String} {q r : Place}

theorem nodesInside_eq (hq : q ∈ p.selector.nodes root) :
    nodesInside (p.selector.nodes root) q
      = (q.below.filter (Place.isNearest (p.selector.nodes root) q)).filter
          fun r => (p.selector.nodes root).any (·.address == r.address) := by
  have happart := Place.apart_nodes p.selector root
  have hmem := Selector.mem_places_of_mem_nodes hq
  refine eq_of_mem_iff ((p.selector.pairwise_nodes root).filter _)
    (((pairwise_placesBelow _ _ _ _).filter _).filter _) fun r => ?_
  rw [List.mem_filter, List.mem_filter, mem_below_iff hmem, Place.isNearest_iff happart hq]
  constructor
  · intro hr
    obtain ⟨hrmem, habove⟩ := (mem_nodesInside happart hq).1 hr
    obtain ⟨-, hpre, hne, -⟩ := (nodeAbove?_eq_some_iff happart).1 habove
    have hrplaces := Selector.mem_places_of_mem_nodes hrmem
    exact ⟨⟨⟨hrplaces, hpre, hne⟩, habove⟩, (Selector.any_address_iff hrplaces).2 hrmem⟩
  · rintro ⟨⟨⟨hrplaces, -, -⟩, habove⟩, hany⟩
    exact (mem_nodesInside happart hq).2 ⟨(Selector.any_address_iff hrplaces).1 hany, habove⟩

theorem Blocks.children_told {blocks : List Block} (h : p.Blocks root blocks)
    (hp : Starts policy root p) (hname : policy.Names name) {b : Block} (hb : b ∈ blocks) :
    b.children
      = (if b.place.tag.name.isPlainly name then
          [(p.selector.plainTag b.place.tag).id?.getD ""] else [])
        ++ (b.place.below.filter (Place.isNearest (p.selector.nodes root) b.place)).filterMap
          (Place.idInside? (·.name.isPlainly name) (p.selector.nodes root) p.idAt) := by
  have hnode := h.mem_nodes hb
  obtain ⟨before, after, hsplit, hdescribes⟩ := h.describes b hb
  have hdue := due_of_nodes hsplit
  obtain ⟨ts, hchildren⟩ := hdescribes.children
  obtain ⟨r, hr, hids⟩ := Working.children_ok hname hp.policy_eq hchildren
  obtain ⟨rfl, -⟩ := Working.placeAt_eq (q := p.view (p.selector.nodes root) b.place) hr rfl
    (by exact hdue.locate_view rfl)
  have hstanding : ∀ r : Place,
      (if (p.standing (p.selector.nodes root) r).tag.name.isPlainly name then
        some ((p.standing (p.selector.nodes root) r).tag.id?.getD "") else none)
      = r.idInside? (·.name.isPlainly name) (p.selector.nodes root) p.idAt := by
    intro r
    rw [standing, placeholders_eq hp hname, Place.tag, Place.idInside?]
    split
    · rw [Option.getD_some, isPlainly_plainPlaceholder, if_pos rfl, id?_plainPlaceholder]
      rfl
    · rfl
  have hself : (p.view (p.selector.nodes root) b.place).tag
      = p.selector.plainTag b.place.tag := rfl
  have hselfName : (p.selector.plainTag b.place.tag).name = b.place.tag.name := rfl
  rw [hids, map_filter_eq_filterMap, ← List.singleton_append, List.filterMap_append,
    below_view (Place.apart_nodes p.selector root) (h.fills.inside _) hnode, List.filterMap_map,
    List.filterMap_map]
  congr 1
  · rw [List.filterMap_cons, List.filterMap_nil, hself, hselfName]
    cases b.place.tag.name.isPlainly name <;> rfl
  · exact List.filterMap_congr fun r _ => hstanding r

theorem Blocks.children_eq {blocks : List Block} (h : p.Blocks root blocks)
    (hp : Starts policy root p) (hname : policy.Names name) (hlacks : root.Lacks name) {b : Block}
    (hb : b ∈ blocks) :
    b.children = (nodesInside (p.selector.nodes root) b.place).map fun r => p.idAt r.address := by
  have hnode := h.mem_nodes hb
  have hmem := Selector.mem_places_of_mem_nodes hnode
  rw [h.children_told hp hname hb, hlacks b.place hmem, nodesInside_eq hnode,
    map_filter_eq_filterMap, if_neg Bool.false_ne_true, List.nil_append]
  refine List.filterMap_congr fun r hr => Place.idInside?_of_not_taken (hlacks r ?_)
  exact ((mem_below_iff hmem).1 (List.mem_filter.1 hr).1).1

end Pass

section Walk

/-- The walk from the node with an id to its children, first ones first, and on to theirs. -/
def walk (fields : List NodeFields) : Nat → String → List NodeFields
  | 0, _ => []
  | fuel + 1, id =>
    match fields.find? (·.id == id) with
    | some f => f :: f.children.flatMap (walk fields fuel)
    | none => []

variable {nodes : List Place} {fields : Place → NodeFields} {all : List NodeFields} {q : Place}

theorem walk_eq (hnodes : nodes.Pairwise fun p q => p.address < q.address)
    (h : Place.Apart nodes)
    (hfind : ∀ q ∈ nodes, all.find? (·.id == (fields q).id) = some (fields q))
    (hchildren : ∀ q ∈ nodes,
      (fields q).children = (nodesInside nodes q).map fun r => (fields r).id)
    {fuel : Nat} (hq : q ∈ nodes) (hfuel : (nodesUnder nodes q).length ≤ fuel) :
    walk all fuel (fields q).id = (nodesUnder nodes q).map fields := by
  induction fuel generalizing q with
  | zero =>
    rw [nodesUnder_eq hnodes h hq] at hfuel
    exact absurd hfuel (Nat.not_succ_le_zero _)
  | succ fuel ih =>
    have hunder := nodesUnder_eq hnodes h hq
    have hinside : ∀ r ∈ nodesInside nodes q,
        walk all fuel (fields r).id = (nodesUnder nodes r).map fields := by
      intro r hr
      refine ih ((mem_nodesInside h hq).1 hr).1 ?_
      have hle := (List.sublist_flatten_of_mem
        (List.mem_map_of_mem hr (f := nodesUnder nodes))).length_le
      rw [← List.flatMap_def] at hle
      rw [hunder, List.length_cons] at hfuel
      omega
    rw [walk, hfind q hq, hunder, List.map_cons, List.map_flatMap]
    simp only [hchildren q hq, List.flatMap_map]
    rw [List.flatMap_congr hinside]

theorem find?_id_of_nodup {f : NodeFields} (h : (all.map (·.id)).Nodup) (hf : f ∈ all) :
    all.find? (·.id == f.id) = some f := by
  cases hfind : all.find? (·.id == f.id) with
  | none => exact absurd (beq_self_eq_true f.id) (List.find?_eq_none.1 hfind f hf)
  | some g =>
    have hid : g.id = f.id := by simpa using List.find?_some hfind
    rw [List.inj_on_of_nodup_map h (List.mem_of_find?_eq_some hfind) hf hid]

/-- How the tokens of nodes tell their hierarchy. -/
structure IsHierarchy (nodes : List Place) (fields : Place → NodeFields) : Prop where
  ancestor : ∀ q ∈ nodes,
    (fields q).ancestor = (nodeAbove? nodes q.address).map fun n => (fields n).id
  root : ∀ q ∈ nodes, (fields q).ancestor = none ↔ q.address = []
  children : ∀ q ∈ nodes, (fields q).children
    = ((nodes.map fields).filter (·.ancestor == some (fields q).id)).map (·.id)
  nodup : ∀ q ∈ nodes, (fields q).children.Nodup

end Walk

section Hierarchy

variable {p : Pass} {policy : Policy} {root : Element} {name : String} {blocks : List Block}

theorem Pass.Blocks.id_fields (h : p.Blocks root blocks) {fields : Place → NodeFields}
    (hfields : ∀ b ∈ blocks, fields b.place = p.nodeFields (p.selector.nodes root) b) {q : Place}
    (hq : q ∈ p.selector.nodes root) : (fields q).id = p.idAt q.address := by
  obtain ⟨b, hb, rfl⟩ := h.exists_block hq
  rw [hfields b hb]
  rfl

theorem Pass.Blocks.ancestor_fields (h : p.Blocks root blocks) {fields : Place → NodeFields}
    (hfields : ∀ b ∈ blocks, fields b.place = p.nodeFields (p.selector.nodes root) b) {q : Place}
    (hq : q ∈ p.selector.nodes root) : (fields q).ancestor
      = (nodeAbove? (p.selector.nodes root) q.address).map fun n => (fields n).id := by
  obtain ⟨b, hb, rfl⟩ := h.exists_block hq
  have hancestor : (fields b.place).ancestor
      = p.ancestorAt (p.selector.nodes root) b.place.address :=
    congrArg NodeFields.ancestor (hfields b hb)
  rw [hancestor, p.ancestorAt_eq]
  refine Option.map_congr fun n hn => ?_
  have hnode := ((nodeAbove?_eq_some_iff (Place.apart_nodes p.selector root)).1 hn).1
  exact (h.id_fields hfields hnode).symm

theorem Pass.Blocks.children_fields (h : p.Blocks root blocks) (hp : Starts policy root p)
    (hname : policy.Names name) (hlacks : root.Lacks name) {fields : Place → NodeFields}
    (hfields : ∀ b ∈ blocks, fields b.place = p.nodeFields (p.selector.nodes root) b) {q : Place}
    (hq : q ∈ p.selector.nodes root) : (fields q).children
      = (nodesInside (p.selector.nodes root) q).map fun r => (fields r).id := by
  obtain ⟨b, hb, rfl⟩ := h.exists_block hq
  rw [hfields b hb]
  refine (h.children_eq hp hname hlacks hb).trans (List.map_congr_left fun r hr => ?_)
  exact (h.id_fields hfields (List.mem_filter.1 hr).1).symm

/-- The tokens of nodes with different ids tell the hierarchy of the nodes. -/
theorem Pass.Blocks.isHierarchy (h : p.Blocks root blocks) (hp : Starts policy root p)
    (hname : policy.Names name) (hlacks : root.Lacks name)
    (hids : ((p.selector.nodes root).map fun q => p.idAt q.address).Nodup)
    {fields : Place → NodeFields}
    (hfields : ∀ b ∈ blocks, fields b.place = p.nodeFields (p.selector.nodes root) b) :
    IsHierarchy (p.selector.nodes root) fields := by
  have happart := Place.apart_nodes p.selector root
  have hinj := List.inj_on_of_nodup_map hids
  have hid : ∀ q ∈ p.selector.nodes root, (fields q).id = p.idAt q.address :=
    fun q hq => h.id_fields hfields hq
  have hancestor : ∀ q ∈ p.selector.nodes root, (fields q).ancestor
      = (nodeAbove? (p.selector.nodes root) q.address).map fun n => (fields n).id :=
    fun q hq => h.ancestor_fields hfields hq
  have hinside : ∀ q ∈ p.selector.nodes root, (fields q).children
      = (nodesInside (p.selector.nodes root) q).map fun r => (fields r).id :=
    fun q hq => h.children_fields hp hname hlacks hfields hq
  refine ⟨hancestor, fun q hq => ?_, fun q hq => ?_, fun q hq => ?_⟩
  · rw [hancestor q hq, Option.map_eq_none_iff, nodeAbove?_eq_none_iff]
    constructor
    · intro hnone
      exact (hnone _ (Selector.root_mem_nodes p.selector root) List.nil_prefix).symm
    · intro hnil n _ hpre
      rw [hnil] at hpre ⊢
      exact List.prefix_nil.1 hpre
  · rw [hinside q hq, List.filter_map, List.map_map]
    -- With different ids, the node that is named as the one above is the one above.
    have hfilter : nodesInside (p.selector.nodes root) q
        = (p.selector.nodes root).filter
            ((fun f : NodeFields => f.ancestor == some (fields q).id) ∘ fields) := by
      refine List.filter_congr fun r hr => ?_
      rw [Bool.eq_iff_iff, Place.isNearest_iff happart hq, Function.comp, hancestor r hr,
        beq_iff_eq, Option.map_eq_some_iff]
      constructor
      · intro habove
        exact ⟨q, habove, rfl⟩
      · rintro ⟨n, habove, hnid⟩
        have hn := ((nodeAbove?_eq_some_iff happart).1 habove).1
        rw [hid n hn, hid q hq] at hnid
        rw [habove, hinj hn hq hnid]
    rw [hfilter]
    rfl
  · rw [hinside q hq]
    have hsub : ((nodesInside (p.selector.nodes root) q).map fun r => p.idAt r.address).Nodup :=
      (List.filter_sublist.map _).nodup hids
    have hmap : (nodesInside (p.selector.nodes root) q).map (fun r => (fields r).id)
        = (nodesInside (p.selector.nodes root) q).map fun r => p.idAt r.address :=
      List.map_congr_left fun r hr => hid r (List.mem_filter.1 hr).1
    rw [hmap]
    exact hsub

theorem Pass.Blocks.walk_fields (h : p.Blocks root blocks) (hp : Starts policy root p)
    (hname : policy.Names name) (hlacks : root.Lacks name)
    (hids : ((p.selector.nodes root).map fun q => p.idAt q.address).Nodup)
    {fields : Place → NodeFields}
    (hfields : ∀ b ∈ blocks, fields b.place = p.nodeFields (p.selector.nodes root) b)
    {fuel : Nat} (hfuel : (p.selector.nodes root).length ≤ fuel) :
    walk ((byDepth (p.selector.nodes root)).map fields) fuel (p.idAt [])
      = (p.selector.nodes root).map fields := by
  have hroot := Selector.root_mem_nodes p.selector root
  have hunder : nodesUnder (p.selector.nodes root) ⟨[], [], root⟩ = p.selector.nodes root :=
    List.filter_eq_self.2 fun r _ => decide_eq_true List.nil_prefix
  have hnodup : (((byDepth (p.selector.nodes root)).map fields).map (·.id)).Nodup := by
    have hmap : ((p.selector.nodes root).map fields).map (·.id)
        = (p.selector.nodes root).map fun q => p.idAt q.address := by
      rw [List.map_map]
      exact List.map_congr_left fun r hr => h.id_fields hfields hr
    rw [(((byDepth_perm _).map fields).map _).nodup_iff, hmap]
    exact hids
  have hwalk := walk_eq (p.selector.pairwise_nodes root) (Place.apart_nodes p.selector root)
    (fun q hq => find?_id_of_nodup hnodup (List.mem_map_of_mem (mem_byDepth.2 hq)))
    (fun q hq => h.children_fields hp hname hlacks hfields hq) hroot (hunder.symm ▸ hfuel)
  rwa [hunder, h.id_fields hfields hroot] at hwalk

end Hierarchy

namespace Document

/-- The hierarchy that a stream tells, if nodes have different ids. A walk from the id of the root
meets every node once, in document order. -/
theorem lex_hierarchy {policy : Policy} {name : String} {d : Markup.Document}
    {file : Option String} {stream : LexedStream} (hname : policy.Names name)
    (hlacks : d.root.Lacks name) (h : (lex policy d file).run.1 = .ok stream) :
    ∃ (o : Outline) (nodes : List Place) (fields : Place → NodeFields),
      o.IsOf policy d.root ∧ nodes = o.selector.nodes d.root
        ∧ stream.toList.filterMap Token.node? = (byDepth nodes).map fields
        ∧ (∀ q ∈ nodes, (fields q).id = o.idAt q.address ∧ (fields q).path = o.pathAt q.address)
        ∧ ((nodes.map fun q => o.idAt q.address).Nodup →
          IsHierarchy nodes fields
            ∧ ∀ fuel, nodes.length ≤ fuel →
              walk (stream.toList.filterMap Token.node?) fuel (o.idAt [])
                = nodes.map fields) := by
  obtain ⟨p, blocks, hp, -, hblocks, hstream⟩ := lex_ok h
  obtain ⟨blockAt, hblockAt⟩ := hblocks.exists_blockAt
  let fields (q : Place) : NodeFields := p.nodeFields (p.selector.nodes d.root) (blockAt q)
  have hfields : ∀ b ∈ blocks, fields b.place = p.nodeFields (p.selector.nodes d.root) b :=
    fun b hb => congrArg (p.nodeFields (p.selector.nodes d.root)) (hblockAt b hb)
  have hsame : ∀ q ∈ p.selector.nodes d.root,
      p.idAt q.address = (p.outline d.root).idAt q.address :=
    fun q hq => hp.idAt_eq (Selector.mem_places_of_mem_nodes hq)
  have hall : stream.toList.filterMap Token.node?
      = (byDepth (p.selector.nodes d.root)).map fields := by
    rw [hstream, nodeFields_stream hblocks, ← hblocks.places, List.map_map]
    exact List.map_congr_left fun b hb => (hfields b hb).symm
  have htold : ∀ q ∈ p.selector.nodes d.root,
      (fields q).id = (p.outline d.root).idAt q.address
        ∧ (fields q).path = (p.outline d.root).pathAt q.address := by
    intro q hq
    obtain ⟨b, hb, rfl⟩ := hblocks.exists_block hq
    rw [hfields b hb]
    exact ⟨hsame _ hq, hp.pathAt_eq (Selector.mem_places_of_mem_nodes hq)⟩
  refine ⟨p.outline d.root, p.selector.nodes d.root, fields, hp.isOf, rfl, hall, htold,
    fun hids => ?_⟩
  have hids' : ((p.selector.nodes d.root).map fun q => p.idAt q.address).Nodup := by
    rw [List.map_congr_left hsame]
    exact hids
  refine ⟨hblocks.isHierarchy hp hname hlacks hids' hfields, fun fuel hfuel => ?_⟩
  rw [hall, ← hsame _ (Selector.root_mem_nodes p.selector d.root)]
  exact hblocks.walk_fields hp hname hlacks hids' hfields hfuel

theorem lex_hierarchy_sample : ∃ stream, (lex .standard sample none).run.1 = .ok stream
    ∧ (let o : Outline := ⟨⟨["urn:x"], .standard, fun _ => ""⟩, .sha1, sample.root⟩
      ∃ fields : Place → NodeFields, IsHierarchy (o.selector.nodes sample.root) fields
        ∧ walk (stream.toList.filterMap Token.node?) 2 (o.idAt [])
          = (o.selector.nodes sample.root).map fields) := by
  obtain ⟨stream, h⟩ := Except.exists_of_isOk
    (show (lex .standard sample none).run.1.isOk = true by decide +kernel)
  have hlacks : sample.root.Lacks "__N_-_O_-_D_-_E__" := by
    rw [Element.Lacks]
    decide +kernel
  obtain ⟨o, nodes, fields, ho, rfl, -, -, hhierarchy⟩ :=
    lex_hierarchy Policy.names_standard hlacks h
  obtain rfl := eq_of_isOf_sample ho
  obtain ⟨hrelations, hwalk⟩ := hhierarchy (by decide +kernel)
  exact ⟨stream, h, fields, hrelations, hwalk 2 (by decide +kernel)⟩

/-- `<r xmlns:p="urn:p"><p:n…na/><p:n…nb/></r>`, where the names differ in the 97th letter. -/
def twins : Markup.Document where
  version := "1.0"
  encoding := "UTF-8"
  leading := []
  doctype := none
  before := []
  root :=
    let base (last : Char) : String := String.ofList (List.replicate 96 'n' ++ [last])
    let twin (last : Char) : Node := .element ⟨⟨some "p", some "urn:p", base last⟩, [], [], 1⟩ []
    ⟨⟨.bare "r", [⟨some "p", "urn:p"⟩], [], 1⟩, [twin 'a', twin 'b']⟩
  after := []

/-- Elements may have one path, and so one id, although different paths have different ids. A node
then lists a child twice. -/
theorem lex_hierarchy_twins :
    twins.root.Lacks "__N_-_O_-_D_-_E__"
      ∧ (let o : Outline := ⟨⟨["urn:p"], .standard, fun _ => ""⟩, .sha1, twins.root⟩
        ∀ q ∈ twins.root.places, ∀ r ∈ twins.root.places,
          o.idAt q.address = o.idAt r.address → o.pathAt q.address = o.pathAt r.address)
      ∧ ((lex .standard twins none).run.1.toOption.map fun stream =>
          (stream.toList.filterMap Token.node?).map fun f => decide f.children.Nodup)
        = some [false, true, true] := by
  refine ⟨by rw [Element.Lacks]; decide +kernel, ?_, by decide +kernel⟩
  intro o q hq r hr hid
  have hpath : o.pathAt [0] = o.pathAt [1] := by
    have hsteps : twins.root.steps [0] = twins.root.steps [1] := by decide +kernel
    rw [Outline.pathAt, Outline.pathAt, Element.path?, Element.path?, hsteps]
  have hroot : o.idAt [] ≠ o.idAt [0] := by decide +kernel
  have htwin : o.idAt [0] = o.idAt [1] := by rw [Outline.idAt, hpath, Outline.idAt]
  have haddress : ∀ q ∈ twins.root.places,
      q.address = [] ∨ q.address = [0] ∨ q.address = [1] := by decide +kernel
  rcases haddress q hq with hq | hq | hq <;> rcases haddress r hr with hr | hr | hr <;>
    rw [hq, hr] at hid ⊢
  · exact absurd hid hroot
  · exact absurd (hid.trans htwin.symm) hroot
  · exact absurd hid.symm hroot
  · exact hpath
  · exact absurd (htwin.trans hid).symm hroot
  · exact hpath.symm

end Document

end TemplateLexer
