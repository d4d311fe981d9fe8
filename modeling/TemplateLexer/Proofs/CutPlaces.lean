import TemplateLexer.Proofs.Cut

set_option autoImplicit false

namespace TemplateLexer

namespace Markup

namespace Placeholders

def covers (ph : Placeholders) (first : Nat) (a : Address) : Bool :=
  (List.range a.length).any fun k => first < k && (ph (a.take k)).isSome

/-- What there is to see at a place once elements below the first of those above it have given
way. -/
def shows (ph : Placeholders) (first : Nat) (q : Place) : Option Place :=
  if ph.covers first q.address then none
  else
    let standing := if first < q.address.length then ph q.address else none
    some { q with element := standing.getD (q.element.cut ph q.address) }

variable {ph : Placeholders} {first : Nat} {a b : Address}

theorem covers_iff : ph.covers first a = true ↔
    ∃ b, b <+: a ∧ b ≠ a ∧ first < b.length ∧ (ph b).isSome = true := by
  rw [covers, List.any_eq_true]
  constructor
  · rintro ⟨k, hk, h⟩
    rw [List.mem_range] at hk
    simp only [Bool.and_eq_true, decide_eq_true_eq] at h
    have hlen : (a.take k).length = k := by
      rw [List.length_take]
      omega
    refine ⟨a.take k, List.take_prefix _ _, ?_, by rw [hlen]; exact h.1, h.2⟩
    intro he
    rw [he] at hlen
    omega
  · rintro ⟨b, hb, hne, hfirst, hsome⟩
    have hlt := Address.length_lt_of_prefix_of_ne hb hne
    refine ⟨b.length, List.mem_range.2 hlt, ?_⟩
    rw [← List.prefix_iff_eq_take.1 hb]
    simp [hfirst, hsome]

theorem covers_of_prefix (hb : b <+: a) (hne : b ≠ a) (hfirst : first < b.length)
    (hsome : (ph b).isSome = true) : ph.covers first a = true :=
  covers_iff.2 ⟨b, hb, hne, hfirst, hsome⟩

theorem covers_length : ph.covers a.length a = false := by
  rw [Bool.eq_false_iff, ne_eq, covers_iff]
  rintro ⟨b, hb, -, hlt, -⟩
  have hle := hb.length_le
  omega

theorem shows_root (q : Place) :
    ph.shows q.address.length q = some { q with element := q.element.cut ph q.address } := by
  simp [shows, covers_length]

theorem shows_succ {i : Nat} {q : Place} (h : ph (a ++ [i]) = none) (hq : a ++ [i] <+: q.address) :
    ph.shows a.length q = ph.shows (a ++ [i]).length q := by
  have hcovers : ph.covers a.length q.address = ph.covers (a ++ [i]).length q.address := by
    rw [Bool.eq_iff_iff, covers_iff, covers_iff]
    constructor
    · rintro ⟨b, hb, hne, hfirst, hsome⟩
      refine ⟨b, hb, hne, ?_, hsome⟩
      have hai : a ++ [i] ≠ b := by
        rintro rfl
        rw [h] at hsome
        cases hsome
      have hpre : a ++ [i] <+: b :=
        Address.prefix_of_prefix hq hb (by rw [List.length_append]; exact hfirst)
      exact Address.length_lt_of_prefix_of_ne hpre hai
    · rintro ⟨b, hb, hne, hfirst, hsome⟩
      refine ⟨b, hb, hne, ?_, hsome⟩
      simp only [List.length_append, List.length_singleton] at hfirst
      omega
  have hlen := hq.length_le
  simp only [List.length_append, List.length_singleton] at hlen
  have hstanding : (if a.length < q.address.length then ph q.address else none)
      = if (a ++ [i]).length < q.address.length then ph q.address else none := by
    rw [if_pos (by omega)]
    split
    · rfl
    · have he : a ++ [i] = q.address := hq.eq_of_length (by
        simp only [List.length_append, List.length_singleton] at *
        omega)
      rw [← he, h]
  rw [shows, shows, hcovers, hstanding]

end Placeholders

theorem placesBelow_joinFront (a : Address) (tags : List Tag) (index : Nat) (nodes : List Node) :
    placesBelow a tags index (joinFront nodes) = placesBelow a tags index nodes := by
  have hdrop : placesBelow a tags index (nodes.dropWhile Node.isCharacters)
      = placesBelow a tags index nodes := by
    induction nodes with
    | nil => rfl
    | cons n rest ih =>
      cases hn : n.isCharacters with
      | true =>
        rw [List.dropWhile_cons_of_pos hn, ih, placesBelow, placesOf_of_isCharacters hn, if_pos hn]
        rfl
      | false => rw [List.dropWhile_cons_of_neg (by simp [hn])]
  rw [joinFront]
  split
  · exact hdrop
  · rw [List.singleton_append, placesBelow]
    exact hdrop

section CutPlaces

variable {ph : Placeholders}

theorem placesOf_standing {a : Address} {index : Nat} {e : Element}
    (h : ph (a ++ [index]) = some e) (hleaf : e.children = []) (tags : List Tag) (x : Element) :
    placesOf (a ++ [index]) tags e.node
      = (placesOf (a ++ [index]) tags x.node).filterMap (ph.shows a.length) := by
  have hlen : (a ++ [index]).length = a.length + 1 := by simp
  have hhead : ph.shows a.length ⟨a ++ [index], tags, x⟩ = some ⟨a ++ [index], tags, e⟩ := by
    have hfree : ph.covers a.length (a ++ [index]) = false := by
      rw [Bool.eq_false_iff, ne_eq, Placeholders.covers_iff]
      rintro ⟨b, hb, hne, hlt, -⟩
      have hb' := Address.length_lt_of_prefix_of_ne hb hne
      omega
    simp [Placeholders.shows, hfree, h]
  -- The placeholder covers whatever was inside the element.
  have hinside : (placesBelow (a ++ [index]) (x.tag :: tags) 0 x.children).filterMap
      (ph.shows a.length) = [] := by
    rw [List.filterMap_eq_nil_iff]
    intro q hq
    obtain ⟨j, y, -, hy⟩ := exists_of_mem_placesBelow hq
    have hcovers : ph.covers a.length q.address = true := by
      refine Placeholders.covers_of_prefix (b := a ++ [index]) ?_ ?_ (by omega) (by simp [h])
      · exact hy ▸ List.prefix_append _ _
      · rw [hy]
        simp
    rw [Placeholders.shows, if_pos hcovers]
  have hx : placesOf (a ++ [index]) tags x.node
      = ⟨a ++ [index], tags, x⟩ :: placesBelow (a ++ [index]) (x.tag :: tags) 0 x.children := rfl
  rw [hx, List.filterMap_cons_some hhead, hinside, Element.node, placesOf, hleaf, placesBelow,
    ← hleaf]

mutual

theorem placesOf_cutNode (hleaf : ∀ b e, ph b = some e → e.children = []) (a : Address)
    (above : List Tag) (n : Node) :
    placesOf a above (cutNode ph a n) = (placesOf a above n).filterMap (ph.shows a.length) := by
  cases n with
  | element tag children =>
    rw [cutNode, placesOf, placesOf, placesBelow_cutNodes hleaf a (tag :: above) 0 children]
    rw [List.filterMap_cons_some (ph.shows_root ⟨a, above, ⟨tag, children⟩⟩)]
    rfl
  | text _ | cdata _ | comment _ | instruction _ _ | reference _ => simp [cutNode, placesOf]

theorem placesBelow_cutNodes (hleaf : ∀ b e, ph b = some e → e.children = []) (a : Address)
    (tags : List Tag) (index : Nat) (nodes : List Node) :
    placesBelow a tags index (cutNodes ph a index nodes)
      = (placesBelow a tags index nodes).filterMap (ph.shows a.length) := by
  cases nodes with
  | nil => simp [placesBelow]
  | cons n rest =>
    rw [placesBelow, List.filterMap_append]
    cases hn : n.isCharacters with
    | true =>
      rw [cutNodes_text hn, placesBelow, placesOf_of_isCharacters hn, if_pos hn,
        placesBelow_cutNodes hleaf a tags index rest]
      rfl
    | false =>
      cases hs : ph.standsFor (a ++ [index]) n with
      | none =>
        have hnode : placesOf (a ++ [index]) tags (cutNode ph (a ++ [index]) n)
            = (placesOf (a ++ [index]) tags n).filterMap (ph.shows a.length) := by
          rw [placesOf_cutNode hleaf (a ++ [index]) tags n]
          refine List.filterMap_congr fun q hq => ?_
          cases n with
          | element tag children =>
            exact (ph.shows_succ hs (prefix_of_mem_placesOf hq)).symm
          | text _ | cdata _ | comment _ | instruction _ _ | reference _ => simp [placesOf] at hq
        rw [cutNodes_staying hn hs, placesBelow, isCharacters_cutNode, hn, hnode,
          ← placesBelow_cutNodes hleaf a tags _ rest]
        rfl
      | some e =>
        have hnode : placesOf (a ++ [index]) tags e.node
            = (placesOf (a ++ [index]) tags n).filterMap (ph.shows a.length) := by
          cases n with
          | element tag children =>
            exact placesOf_standing hs (hleaf _ _ hs) tags ⟨tag, children⟩
          | text _ | cdata _ | comment _ | instruction _ _ | reference _ =>
            simp [Placeholders.standsFor, Node.isElement] at hs
        rw [cutNodes_standing hs, placesBelow, Node.isCharacters_node, placesBelow_joinFront, hnode,
          ← placesBelow_cutNodes hleaf a tags _ rest]
        rfl

end

end CutPlaces

section Around

variable {ph : Placeholders}

/-- A place when there are more tags around what it is in. -/
def Place.inside (tags : List Tag) (q : Place) : Place := { q with above := q.above ++ tags }

mutual

theorem placesOf_inside (a : Address) (above tags : List Tag) (n : Node) :
    placesOf a (above ++ tags) n = (placesOf a above n).map (Place.inside tags) := by
  cases n with
  | element tag children =>
    rw [placesOf, placesOf, List.map_cons, ← placesBelow_inside a (tag :: above) tags 0 children]
    rfl
  | text _ | cdata _ | comment _ | instruction _ _ | reference _ => simp [placesOf]

theorem placesBelow_inside (a : Address) (above tags : List Tag) (index : Nat)
    (nodes : List Node) : placesBelow a (above ++ tags) index nodes
      = (placesBelow a above index nodes).map (Place.inside tags) := by
  cases nodes with
  | nil => simp [placesBelow]
  | cons n rest =>
    rw [placesBelow, placesBelow, List.map_append, placesOf_inside _ above tags n,
      placesBelow_inside a above tags _ rest]

end

/-- A place when the outermost of the tags around it, as many as there are on the way to some
element, are others. -/
def Place.under (n : Nat) (tags : List Tag) (q : Place) : Place :=
  { q with above := q.above.take (q.above.length - n) ++ tags }

theorem Place.under_inside (tags tags' : List Tag) (q : Place) :
    (q.inside tags).under tags.length tags' = q.inside tags' := by
  rw [under, inside, inside]
  simp

theorem placesBelow_under (a : Address) (tags tags' : List Tag) (index : Nat) (nodes : List Node) :
    placesBelow a tags' index nodes
      = (placesBelow a tags index nodes).map (Place.under tags.length tags') := by
  have h := placesBelow_inside a [] tags index nodes
  have h' := placesBelow_inside a [] tags' index nodes
  rw [List.nil_append] at h h'
  rw [h, h', List.map_map]
  refine List.map_congr_left fun q _ => ?_
  exact (Place.under_inside tags tags' q).symm

theorem Place.exists_above_of_mem_below {p q : Place} (h : q ∈ p.below) :
    ∃ tags, q.above = tags ++ p.tags := by
  have hinside := placesBelow_inside p.address [] p.tags 0 p.element.children
  rw [List.nil_append] at hinside
  rw [below, hinside, List.mem_map] at h
  obtain ⟨r, -, rfl⟩ := h
  exact ⟨r.above, rfl⟩

theorem Place.map_above_under {β : Type} {f : Tag → β} {p q : Place} {tags : List Tag}
    (h : q ∈ p.below) (hf : tags.map f = p.tags.map f) :
    (q.under p.tags.length tags).above.map f = q.above.map f := by
  obtain ⟨x, hx⟩ := exists_above_of_mem_below h
  rw [under, hx]
  simp [hf]

theorem Placeholders.shows_under (first n : Nat) (tags : List Tag) (q : Place) :
    ph.shows first (q.under n tags) = (ph.shows first q).map (Place.under n tags) := by
  have haddress : (q.under n tags).address = q.address := rfl
  rw [shows, shows, haddress]
  cases ph.covers first q.address with
  | true => rfl
  | false => rfl

end Around

end Markup

end TemplateLexer
