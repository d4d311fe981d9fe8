import TemplateLexer.Proofs.TwinSteps
import TemplateLexer.Proofs.Shielded

set_option autoImplicit false

namespace TemplateLexer

open Markup

/-- Namespaces that names may have without a declaration: none at all, that of the markup language
itself, and the one of placeholders. -/
def Policy.tacit (policy : Policy) : List String :=
  "" :: xmlUri :: ((policy.placeholder.str?.bind splitExpanded).bind (·.1)).toList

namespace Markup.Element

/-- Whether a namespace is in force anywhere outside shielding elements. -/
def Declares (policy : Policy) (root : Element) (u : String) : Prop :=
  ∃ q ∈ root.exposed policy, ∃ d ∈ q.bindings, d.uri = u

/-- The namespaces of names and declarations outside shielding elements. -/
def Knows (policy : Policy) (root : Element) (u : String) : Prop :=
  u ∈ policy.tacit ∨ root.Declares policy u

def Exposes (policy : Policy) (root : Element) (a : Address) : Prop :=
  ∃ q ∈ root.exposed policy, q.address = a

end Markup.Element

section Masks

variable {policy : Policy} {root root' : Element} {q q' : Place} {xs xs' : List Place}

@[simp] theorem Markup.Place.address_masked : (q.masked policy).address = q.address := rfl

@[simp] theorem Markup.Place.above_masked : (q.masked policy).above = q.above := rfl

@[simp] theorem Markup.Place.tag_masked : (q.masked policy).tag = q.tag := rfl

/-- Documents with the same mask have the same places outside shielding elements, but for what is
inside such elements. -/
theorem map_masked_exposed (h : root.masked policy = root'.masked policy) :
    (root.exposed policy).map (Place.masked policy)
      = (root'.exposed policy).map (Place.masked policy) := by
  rw [← places_masked, ← places_masked, h]

theorem exists_masked_eq (h : root.masked policy = root'.masked policy)
    (hq : q ∈ root.exposed policy) :
    ∃ q' ∈ root'.exposed policy, q'.masked policy = q.masked policy := by
  have hmem : q.masked policy ∈ (root.exposed policy).map (Place.masked policy) :=
    List.mem_map_of_mem hq
  rw [map_masked_exposed h, List.mem_map] at hmem
  exact hmem

theorem map_eq_of_map_masked {β : Type} {f : Place → β} (hf : ∀ q, f (q.masked policy) = f q)
    (h : xs.map (Place.masked policy) = xs'.map (Place.masked policy)) : xs.map f = xs'.map f := by
  have hmap : ∀ ys : List Place, ys.map f = (ys.map (Place.masked policy)).map f := by
    intro ys
    rw [List.map_map]
    exact List.map_congr_left fun q _ => (hf q).symm
  rw [hmap xs, hmap xs', h]

theorem find?_bind_eq_of_map_masked {β : Type} (a : Address) {f : Place → Option β}
    (hf : ∀ q, f (q.masked policy) = f q)
    (h : xs.map (Place.masked policy) = xs'.map (Place.masked policy)) :
    (xs.find? (·.address == a)).bind f = (xs'.find? (·.address == a)).bind f := by
  have hfind : ∀ ys : List Place, (ys.find? (·.address == a)).bind f
      = ((ys.map (Place.masked policy)).find? (·.address == a)).bind f := by
    intro ys
    rw [List.find?_map, Option.bind_map]
    exact congrArg _ (funext fun q => (hf q).symm)
  rw [hfind xs, hfind xs', h]

theorem Selector.nodes_masked {s : Selector} (hs : s.policy = policy) (root : Element) :
    s.nodes (root.masked policy) = (s.nodes root).map (Place.masked policy) := by
  rw [nodes, nodes, places_masked, List.filter_map, Element.exposed, List.filter_filter]
  refine congrArg _ (List.filter_congr fun q hq => ?_)
  rw [Bool.eq_iff_iff, Bool.and_eq_true]
  refine ⟨fun h => h.1, fun h => ⟨h, ?_⟩⟩
  rcases Bool.or_eq_true_iff.1 h with hroot | hmarked
  · have hdepth : q.above.length = q.address.length := depth_of_mem_places hq
    rw [List.isEmpty_iff.1 hroot] at hdepth
    rw [List.eq_nil_of_length_eq_zero hdepth]
    rfl
  · rw [isMarked, exposed, hs] at hmarked
    exact (Bool.and_eq_true_iff.1 hmarked).1

theorem map_masked_byDepth (xs : List Place) :
    (byDepth xs).map (Place.masked policy) = byDepth (xs.map (Place.masked policy)) :=
  List.map_insertionSort _ _ _ _ fun _ _ _ _ => Iff.rfl

end Masks

section Placeholders

variable {policy : Policy} {tags above : List Tag} {s u base id : String} {uri : Option String}
  {e : Element} {d : Declaration}

theorem Markup.splitExpanded_of_newName? (h : newName? s = some (some u, base)) :
    splitExpanded s = some (some u, base) := by
  cases hsplit : splitExpanded s with
  | none =>
    rw [newName?, hsplit] at h
    cases h
  | some named =>
    obtain ⟨uri, base'⟩ := named
    simp only [newName?, hsplit] at h
    -- The empty namespace is none.
    split at h
    · split at h <;> cases h
    · split at h
      · cases h
        rfl
      · cases h

theorem Markup.uri_of_nameBelow (h : d ∈ (nameBelow tags uri base).2) : uri = some d.uri := by
  rw [nameBelow.eq_def] at h
  split at h
  · cases h
  · split at h
    · cases h
    · split at h
      · cases h
      · rw [List.mem_singleton.1 h]

theorem Policy.uri_of_newPlaceholder (h : policy.newPlaceholder above id = .ok e)
    (hd : d ∈ e.tag.declarations) : d.uri ∈ policy.tacit := by
  obtain ⟨s, uri, base, hs, hname, rfl⟩ := newPlaceholder_ok h
  obtain rfl := uri_of_nameBelow hd
  rw [tacit, hs, Json.str?, Option.bind_some, splitExpanded_of_newName? hname]
  simp

end Placeholders

section Views

variable {policy : Policy} {root : Element} {p : Pass} {nodes : List Place} {q r : Place}

/-- Whether all shielding elements inside a node have given way. -/
def Pass.Covers (p : Pass) (policy : Policy) (root : Element) (nodes : List Place) (q : Place) :
    Prop :=
  ∀ r ∈ root.exposed policy, q.address <+: r.address → r.address ≠ q.address →
    policy.shields r.tag = true → (p.placeholders nodes r.address).isSome = true

theorem tag_of_shows {ph : Placeholders} {n : Nat} (h : ph.shows n q = some r) :
    r.address = q.address ∧ (r.tag = q.tag ∨ ∃ e, ph q.address = some e ∧ r.tag = e.tag) := by
  rw [Placeholders.shows] at h
  split at h
  · cases h
  · cases h
    refine ⟨rfl, ?_⟩
    cases hstanding : (if n < q.address.length then ph q.address else none) with
    | none => exact .inl rfl
    | some e =>
      refine .inr ⟨e, ?_, rfl⟩
      split at hstanding
      · exact hstanding
      · cases hstanding

/-- What stands inside a node once all shielding elements inside it have given way: elements that
are in none, or placeholders for them. -/
theorem Pass.Covers.exists_exposed (h : p.Covers policy root nodes q)
    (hq : q ∈ root.exposed policy) (htag : policy.shields q.tag = false)
    (hr : r ∈ (p.view nodes q).below) :
    ∃ s ∈ root.exposed policy, s.address = r.address
      ∧ (r.tag = s.tag ∨ ∃ e, p.placeholders nodes r.address = some e ∧ r.tag = e.tag) := by
  have hleaf : ∀ b e, p.placeholders nodes b = some e → e.children = [] :=
    fun _ _ he => children_placeholders he
  have hmasked : q.masked policy ∈ (root.masked policy).places := by
    rw [places_masked]
    exact List.mem_map_of_mem hq
  have hcut := congrArg Element.children (Element.cut_masked hq htag h)
  have hbelow : (p.view nodes q).below
      = ((q.masked policy).below.map (Place.under q.tags.length (p.view nodes q).tags)).filterMap
          ((p.placeholders nodes).shows q.address.length) := by
    have hunder : placesBelow q.address (p.view nodes q).tags 0 (q.masked policy).element.children
        = (q.masked policy).below.map (Place.under q.tags.length (p.view nodes q).tags) :=
      placesBelow_under q.address q.tags _ 0 _
    rw [← hunder, ← placesBelow_cutNodes hleaf]
    exact congrArg (placesBelow q.address (p.view nodes q).tags 0) hcut.symm
  rw [hbelow, List.mem_filterMap] at hr
  obtain ⟨x, hx, hshows⟩ := hr
  obtain ⟨y, hy, rfl⟩ := List.mem_map.1 hx
  obtain ⟨hymem, -⟩ := (mem_below_iff hmasked).1 hy
  rw [places_masked, List.mem_map] at hymem
  obtain ⟨s, hs, rfl⟩ := hymem
  obtain ⟨haddress, htag⟩ := tag_of_shows hshows
  rw [haddress]
  exact ⟨s, hs, rfl, htag⟩

/-- A node that shields nothing binds no other namespaces when it is worked on than elements outside
shielding elements do, or placeholders. -/
theorem Pass.Covers.binds_view (h : p.Covers policy root nodes q) (hpolicy : p.policy = policy)
    (hq : q ∈ root.exposed policy) (htag : policy.shields q.tag = false) :
    ∀ t ∈ (p.view nodes q).element.node.tags, ∀ d, t.Binds d → root.Knows policy d.uri := by
  have hexposed : ∀ s ∈ root.exposed policy, ∀ d, s.tag.Binds d → root.Knows policy d.uri :=
    fun s hs d hd => .inr ⟨s, hs, d, mem_bindings_of_binds hd s.above, rfl⟩
  intro t ht d hd
  have htags : (p.view nodes q).element.node.tags
      = (p.view nodes q).tag :: (p.view nodes q).below.map Place.tag := by
    rw [Place.below, map_tag_placesBelow]
    rfl
  rw [htags, List.mem_cons] at ht
  rcases ht with rfl | ht
  · exact hexposed q hq d hd
  · obtain ⟨r, hr, rfl⟩ := List.mem_map.1 ht
    obtain ⟨s, hs, -, hsame | ⟨e, he, hplaceholder⟩⟩ := h.exists_exposed hq htag hr
    · exact hexposed s hs d (hsame ▸ hd)
    · obtain ⟨above, hnew⟩ := exists_newPlaceholder he
      rw [hplaceholder] at hd
      exact .inl (Policy.uri_of_newPlaceholder (hpolicy ▸ hnew) (List.mem_of_find?_eq_some hd))

end Views

section Markers

variable {policy : Policy} {root root' : Element} {p p' : Pass} {q q' : Place} {xs xs' : List Place}

theorem Selector.map_masked_nodes {s s' : Selector} (hs : s.policy = policy)
    (h : s.Agrees (root.Knows policy) s') (hmasked : root.masked policy = root'.masked policy)
    (hnames : ∀ q ∈ root.exposed policy, q.tag.NamesWithin (root.Knows policy)) :
    (s.nodes root).map (Place.masked policy) = (s'.nodes root').map (Place.masked policy) := by
  rw [← nodes_masked hs, ← nodes_masked (h.policy ▸ hs), ← hmasked]
  refine List.filter_congr fun q hq => ?_
  rw [places_masked] at hq
  obtain ⟨r, hr, rfl⟩ := List.mem_map.1 hq
  rw [h.isMarked_eq (q := r.masked policy) (hnames r hr)]

theorem Pass.markerOf_eq (hdigest : p.digest = p'.digest)
    (hpaths : ∀ a, root.Exposes policy a → p.pathAt a = p'.pathAt a)
    (hxs : xs.map (Place.masked policy) = xs'.map (Place.masked policy))
    (hexposed : ∀ q ∈ xs, q ∈ root.exposed policy) (hq : q ∈ xs) :
    p.markerOf xs q = p'.markerOf xs' q := by
  have hid : ∀ r ∈ xs, p.idAt r.address = p'.idAt r.address := by
    intro r hr
    rw [idAt, idAt, hpaths _ ⟨r, hexposed r hr, rfl⟩, hdigest]
  have hids : xs.map (fun r => (r.address, p.idAt r.address))
      = xs'.map fun r => (r.address, p'.idAt r.address) := by
    refine (List.map_congr_left fun r hr => ?_).trans (map_eq_of_map_masked (fun _ => rfl) hxs)
    rw [hid r hr]
  have horder : xs.findIdx (·.address == q.address) = xs'.findIdx (·.address == q.address) := by
    have hfind : ∀ ys : List Place, ys.findIdx (·.address == q.address)
        = (ys.map (Place.masked policy)).findIdx (·.address == q.address) := by
      intro ys
      rw [List.findIdx_map]
      rfl
    rw [hfind xs, hfind xs', hxs]
  rw [markerOf, markerOf, ancestorAt, ancestorAt, hids, horder, hid q hq,
    hpaths _ ⟨q, hexposed q hq, rfl⟩]

end Markers

/-- A pass over a document in which shielding elements are helpers, and nothing inside them is taken
for a placeholder. -/
structure Pass.Contains (policy : Policy) (root : Element) (p : Pass) : Prop where
  starts : Starts policy root p
  names : ∀ q ∈ root.exposed policy, q.tag.NamesWithin (root.Knows policy)
  helpers : ∀ q ∈ root.exposed policy, policy.shields q.tag = true →
    q.tag.name.isIn p.selector.uris = true
  hidden : ∀ selections, policy.placeholders = .ok selections → ∀ q ∈ root.places,
    q.above.any policy.shields = true → selections.any (·.holds q.tag.name) = false

/-- Passes over two documents that differ inside shielding elements only. -/
structure Pass.Twins (policy : Policy) (root root' : Element) (p p' : Pass) : Prop where
  left : p.Contains policy root
  right : p'.Contains policy root'
  masked : root.masked policy = root'.masked policy
  agrees : p.Agrees (root.Knows policy) (root.Exposes policy) p'
  lines : ∀ q q', Place.Twins policy root root' q q' →
    lineBreaks q.markup.toList = lineBreaks q'.markup.toList

section Unary

variable {policy : Policy} {root : Element} {p : Pass} {q r : Place} {done : List Place}

namespace Pass.Contains

theorem exposed_of_mem_nodes (h : p.Contains policy root) (hq : q ∈ p.selector.nodes root) :
    q ∈ root.exposed policy :=
  mem_exposed_iff.2 ⟨Selector.mem_places_of_mem_nodes hq,
    h.starts.policy_eq ▸ any_shields_above_node hq⟩

theorem mem_nodes_of_shields (h : p.Contains policy root) (hr : r ∈ root.exposed policy)
    (hshields : policy.shields r.tag = true) : r ∈ p.selector.nodes root := by
  obtain ⟨hmem, hout⟩ := mem_exposed_iff.1 hr
  have hin : r.tag.name.isInOrEmpty p.selector.uris = true := by
    have hin := h.helpers r hr hshields
    rw [Name.isIn] at hin
    split at hin
    · rename_i u hu
      rw [Name.isInOrEmpty, hu]
      exact hin
    · cases hin
  have hpolicy : p.selector.policy = policy := h.starts.policy_eq
  refine Selector.mem_nodes_iff.2 ⟨hmem, .inr ?_⟩
  rw [Selector.isMarked, Selector.exposed, hpolicy, hout, hin]
  rfl

theorem covers (h : p.Contains policy root) (hdue : Due (p.selector.nodes root) done q)
    (hfills : p.Fills done) : p.Covers policy root (p.selector.nodes root) q := by
  intro r hr hpre hne hshields
  have hnode := h.mem_nodes_of_shields hr hshields
  have hnil : r.address ≠ [] := by
    intro hnil
    rw [hnil] at hpre hne
    exact hne (List.prefix_nil.1 hpre).symm
  obtain ⟨e, he⟩ := hfills r (hdue.below r hnode hpre hne) hnil
  rw [placeholders_of_mem (Place.apart_nodes p.selector root) hnode, he]
  rfl

theorem found_of_shields (h : p.Contains policy root) (hq : q ∈ p.selector.nodes root)
    (hshields : policy.shields q.tag = true) :
    (p.found (p.selector.nodes root) q).element = q.element := by
  have hchildren := cutNodes_of_shields hq (h.starts.policy_eq.symm ▸ hshields)
  rw [found, Element.cut, hchildren]

theorem filter_view_of_shields (h : p.Contains policy root) (hq : q ∈ p.selector.nodes root)
    (hshields : policy.shields q.tag = true) {selections : List Selection}
    (hselections : policy.placeholders = .ok selections) :
    (p.view (p.selector.nodes root) q).below.filter
      (fun r => selections.any (·.holds r.tag.name)) = [] := by
  have htags : (p.view (p.selector.nodes root) q).below.map Place.tag
      = q.below.map Place.tag := by
    have hchildren := congrArg Element.children (h.found_of_shields hq hshields)
    rw [Place.below, Place.below, map_tag_placesBelow, map_tag_placesBelow]
    exact congrArg tagsIn hchildren
  rw [List.filter_eq_nil_iff]
  intro r hr
  have hmem : r.tag ∈ q.below.map Place.tag := htags ▸ List.mem_map_of_mem hr
  obtain ⟨x, hx, htag⟩ := List.mem_map.1 hmem
  obtain ⟨tags, habove⟩ := Place.exists_above_of_mem_below hx
  have hinside : x.above.any policy.shields = true :=
    List.any_eq_true.2 ⟨q.tag, habove ▸ List.mem_append_right _ (List.mem_cons_self ..), hshields⟩
  have hxmem := ((mem_below_iff (Selector.mem_places_of_mem_nodes hq)).1 hx).1
  rw [← htag, h.hidden selections hselections x hxmem hinside]
  exact Bool.false_ne_true

end Pass.Contains

end Unary

namespace Pass.Twins

variable {policy : Policy} {root root' : Element} {p p' : Pass} {q q' : Place}
  {done done' : List Place}

theorem nodes_eq (h : p.Twins policy root root' p') :
    (p.selector.nodes root).map (Place.masked policy)
      = (p'.selector.nodes root').map (Place.masked policy) :=
  Selector.map_masked_nodes h.left.starts.policy_eq h.agrees.selector h.masked h.left.names

theorem markerOf_eq (h : p.Twins policy root root' p') (hq : q ∈ p.selector.nodes root)
    (hmasked : q.masked policy = q'.masked policy) :
    p.markerOf (p.selector.nodes root) q = p'.markerOf (p'.selector.nodes root') q' := by
  rw [Pass.markerOf_eq h.agrees.digest h.agrees.paths h.nodes_eq
    (fun r hr => h.left.exposed_of_mem_nodes hr) hq]
  show p'.markerOf _ (q.masked policy) = p'.markerOf _ (q'.masked policy)
  rw [hmasked]

theorem placeholders_eq (h : p.Twins policy root root' p')
    (hexposed : ∀ r ∈ done, r ∈ root.exposed policy)
    (hdone : done.map (Place.masked policy) = done'.map (Place.masked policy)) :
    p.placeholders done = p'.placeholders done' := by
  funext a
  have hsame : (done.find? (·.address == a)).bind
        (fun q => (p'.policy.newPlaceholder q.above (p'.idAt a)).toOption)
      = p'.placeholders done' a :=
    find?_bind_eq_of_map_masked a (fun _ => rfl) hdone
  rw [← hsame, placeholders]
  refine Option.bind_congr fun r hr => ?_
  have ha : r.address = a := by simpa using List.find?_some hr
  rw [h.agrees.policy_eq, h.agrees.idAt_eq ⟨r, hexposed r (List.mem_of_find?_eq_some hr), ha⟩]

end Pass.Twins

end TemplateLexer
