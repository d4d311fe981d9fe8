import TemplateLexer.Proofs.Hierarchy
/-!
The elements beside an element. A node knows the nearest elements before and after it if these are
nodes. When it is worked on, those after it have left placeholders and those before it are still in
place, so that the two come to be known in different ways.
-/

set_option autoImplicit false

namespace TemplateLexer

open Markup

theorem head?_eq_some_iff_of_pairwise {α : Type} {R : α → α → Prop} {xs : List α} {x : α}
    (h : xs.Pairwise R) (hasymm : ∀ a b, R a b → ¬R b a) :
    xs.head? = some x ↔ x ∈ xs ∧ ∀ y ∈ xs, ¬R y x := by
  cases xs with
  | nil => simp
  | cons a xs =>
    have ha := (List.pairwise_cons.1 h).1
    rw [List.head?_cons, Option.some.injEq]
    constructor
    · rintro rfl
      refine ⟨List.mem_cons_self .., fun y hy => ?_⟩
      rcases List.mem_cons.1 hy with rfl | hy
      · exact fun hyy => hasymm _ _ hyy hyy
      · exact hasymm _ _ (ha y hy)
    · rintro ⟨hx, hfirst⟩
      rcases List.mem_cons.1 hx with rfl | hx
      · rfl
      · exact absurd (ha x hx) (hfirst a (List.mem_cons_self ..))

namespace Markup

namespace Address

def isBeside (a b : Address) : Bool := a.length == b.length && a.dropLast == b.dropLast

variable {a b : Address} {i j : Nat}

theorem isBeside_comm (a b : Address) : a.isBeside b = b.isBeside a := by
  rw [isBeside, isBeside, Bool.beq_comm, Bool.beq_comm (a := a.dropLast)]

theorem isBeside_trans {c : Address} (hab : a.isBeside b = true) (hbc : b.isBeside c = true) :
    a.isBeside c = true := by
  simp only [isBeside, Bool.and_eq_true, beq_iff_eq] at *
  exact ⟨hab.1.trans hbc.1, hab.2.trans hbc.2⟩

theorem isBeside_concat_iff : (b ++ [i]).isBeside a = true ↔ ∃ j, a = b ++ [j] := by
  simp only [isBeside, Bool.and_eq_true, beq_iff_eq, List.dropLast_concat, List.length_append,
    List.length_singleton]
  constructor
  · rintro ⟨hlen, hb⟩
    have hne : a ≠ [] := by
      rintro rfl
      simp at hlen
    exact ⟨a.getLast hne, by rw [hb, List.dropLast_append_getLast]⟩
  · rintro ⟨j, rfl⟩
    simp

theorem concat_lt_concat_iff : b ++ [i] < b ++ [j] ↔ i < j := by
  constructor
  · intro h
    rcases Nat.lt_trichotomy i j with hij | rfl | hij
    · exact hij
    · exact absurd h (List.lt_irrefl _)
    · exact absurd (List.lt_trans h (append_lt_append hij b [] [])) (List.lt_irrefl _)
  · intro h
    exact append_lt_append h b [] []

end Address

/-- The nearest element before the one at a place, inside the same element. -/
def Element.before? (root : Element) (q : Place) : Option Place :=
  (root.places.filter fun r =>
    q.address.isBeside r.address && decide (r.address < q.address)).getLast?

/-- The nearest element after the one at a place, inside the same element. -/
def Element.after? (root : Element) (q : Place) : Option Place :=
  (root.places.filter fun r =>
    q.address.isBeside r.address && decide (q.address < r.address)).head?

/-- Whether one element is the nearest before another one. -/
structure Place.IsJustBefore (root : Element) (q r : Place) : Prop where
  beside : q.address.isBeside r.address = true
  lt : q.address < r.address
  nearest : ∀ s ∈ root.places, q.address.isBeside s.address = true →
    q.address < s.address → ¬s.address < r.address

section Nearest

variable {root : Element} {q r : Place}

theorem Element.after?_eq_some_iff :
    root.after? q = some r ↔ r ∈ root.places ∧ Place.IsJustBefore root q r := by
  rw [after?, head?_eq_some_iff_of_pairwise (root.pairwise_places.filter _)
    fun _ _ hab hba => List.lt_irrefl _ (List.lt_trans hab hba)]
  simp only [List.mem_filter, Bool.and_eq_true, decide_eq_true_eq]
  constructor
  · rintro ⟨⟨hr, hbeside, hlt⟩, hfirst⟩
    exact ⟨hr, hbeside, hlt, fun s hs hqs hlts => hfirst s ⟨hs, hqs, hlts⟩⟩
  · rintro ⟨hr, hbeside, hlt, hnearest⟩
    exact ⟨⟨hr, hbeside, hlt⟩, fun s hs => hnearest s hs.1 hs.2.1 hs.2.2⟩

theorem Element.before?_eq_some_iff :
    root.before? r = some q ↔ q ∈ root.places ∧ Place.IsJustBefore root q r := by
  have horder : (root.places.filter fun s => r.address.isBeside s.address
      && decide (s.address < r.address)).reverse.Pairwise fun s t => t.address < s.address :=
    List.pairwise_reverse.2 (root.pairwise_places.filter _)
  rw [before?, ← List.head?_reverse, head?_eq_some_iff_of_pairwise horder
    fun _ _ hab hba => List.lt_irrefl _ (List.lt_trans hab hba)]
  simp only [List.mem_reverse, List.mem_filter, Bool.and_eq_true, decide_eq_true_eq]
  constructor
  · rintro ⟨⟨hq, hbeside, hlt⟩, hfirst⟩
    refine ⟨hq, Address.isBeside_comm _ _ ▸ hbeside, hlt, fun s hs hqs hlts hsr => ?_⟩
    exact hfirst s ⟨hs, Address.isBeside_trans hbeside hqs, hsr⟩ hlts
  · rintro ⟨hq, hbeside, hlt, hnearest⟩
    have hrq : r.address.isBeside q.address = true := Address.isBeside_comm _ _ ▸ hbeside
    refine ⟨⟨hq, hrq, hlt⟩, fun s hs hqs => ?_⟩
    exact hnearest s hs.1 (Address.isBeside_trans hbeside hs.2.1) hqs hs.2.2

theorem Element.after?_eq_some_iff_before? (hq : q ∈ root.places) (hr : r ∈ root.places) :
    root.after? q = some r ↔ root.before? r = some q := by
  rw [after?_eq_some_iff, before?_eq_some_iff]
  exact ⟨fun h => ⟨hq, h.2⟩, fun h => ⟨hr, h.2⟩⟩

theorem Element.after?_of_root (h : q.address = []) : root.after? q = none := by
  rw [after?, List.head?_eq_none_iff, List.filter_eq_nil_iff]
  intro r _
  simp only [Address.isBeside, h, List.length_nil, Bool.and_eq_true, beq_iff_eq,
    decide_eq_true_eq, not_and]
  rintro ⟨hlen, -⟩
  rw [List.eq_nil_of_length_eq_zero hlen.symm]
  exact List.lt_irrefl _

theorem Element.before?_of_root (h : q.address = []) : root.before? q = none := by
  rw [before?, List.getLast?_eq_none_iff, List.filter_eq_nil_iff]
  intro r _
  simp [h]

theorem Place.IsJustBefore.isHigher (h : Place.IsJustBefore root q r) (hq : q ∈ root.places)
    (hr : r ∈ root.places) : q.IsHigher r := by
  have hbeside := h.beside
  simp only [Address.isBeside, Bool.and_eq_true, beq_iff_eq] at hbeside
  refine .inr ⟨?_, h.lt⟩
  rw [depth_of_mem_places hq, depth_of_mem_places hr, hbeside.1]

theorem Place.isJustBefore_concat_iff {b : Address} {i j : Nat} (hq : q.address = b ++ [i])
    (hr : r.address = b ++ [j]) : Place.IsJustBefore root q r ↔
      i < j ∧ ∀ s ∈ root.places, ∀ n, s.address = b ++ [n] → i < n → ¬n < j := by
  constructor
  · rintro ⟨-, hlt, hnearest⟩
    rw [hq, hr, Address.concat_lt_concat_iff] at hlt
    refine ⟨hlt, fun s hs n hn hin hnj => hnearest s hs ?_ ?_ ?_⟩
    · rw [hq, Address.isBeside_concat_iff]
      exact ⟨n, hn⟩
    · rwa [hq, hn, Address.concat_lt_concat_iff]
    · rwa [hr, hn, Address.concat_lt_concat_iff]
  · rintro ⟨hlt, hnearest⟩
    refine ⟨?_, ?_, fun s hs hbeside hqs => ?_⟩
    · rw [hq, Address.isBeside_concat_iff]
      exact ⟨j, hr⟩
    · rwa [hq, hr, Address.concat_lt_concat_iff]
    · rw [hq, Address.isBeside_concat_iff] at hbeside
      obtain ⟨n, hn⟩ := hbeside
      rw [hq, hn, Address.concat_lt_concat_iff] at hqs
      rw [hr, hn, Address.concat_lt_concat_iff]
      exact hnearest s hs n hn hqs

end Nearest

section Children

theorem Node.element?_eq_some_iff {n : Node} {e : Element} : n.element? = some e ↔ n = e.node := by
  cases n with
  | element tag children =>
    obtain ⟨tag', children'⟩ := e
    simp [element?, Element.node]
  | text _ | cdata _ | comment _ | instruction _ _ | reference _ =>
    simp [element?, Element.node]

@[simp] theorem Element.node_inj {e e' : Element} : e.node = e'.node ↔ e = e' := by
  obtain ⟨tag, children⟩ := e
  obtain ⟨tag', children'⟩ := e'
  simp [node]

theorem exists_items_cutNodes_iff {ph : Placeholders} {b : Address} {nodes : List Node} {i : Nat}
    {t : Tag} : (∃ e : Element, (items (cutNodes ph b 0 nodes))[i]? = some e.node ∧ e.tag = t)
      ↔ ∃ y : Element, (items nodes)[i]? = some y.node ∧ ((ph (b ++ [i])).getD y).tag = t := by
  rw [getElem?_items_cutNodes, Nat.zero_add]
  cases hi : (items nodes)[i]? with
  | none => simp
  | some n =>
    cases n with
    | element tag children =>
      have hnode : Node.element tag children = (⟨tag, children⟩ : Element).node := rfl
      have hcut : cutNode ph (b ++ [i]) (.element tag children)
          = (⟨tag, cutNodes ph (b ++ [i]) 0 children⟩ : Element).node := by
        rw [cutNode]
        rfl
      have hstands : ph.standsFor (b ++ [i]) (.element tag children) = ph (b ++ [i]) := rfl
      rw [Option.map_some, hstands, hcut, hnode]
      cases ph (b ++ [i]) with
      | none => simp
      | some e => simp
    | text _ | cdata _ | comment _ | instruction _ _ | reference _ =>
      simp [Placeholders.standsFor, Node.isElement, cutNode, Element.node]

end Children

end Markup

section Siblings

variable {forward : Bool} {k : Nat} {nodes : List Node}

namespace Working

theorem mem_zipIdx_side {n : Node} {i : Nat} :
    (n, i) ∈ (if forward then (items nodes).zipIdx.drop (k + 1)
        else ((items nodes).zipIdx.take k).reverse)
      ↔ (if forward then k < i else i < k) ∧ (items nodes)[i]? = some n := by
  cases forward with
  | true =>
    simp only [if_true, List.mem_iff_getElem?, List.getElem?_drop, List.getElem?_zipIdx,
      Option.map_eq_some_iff, Prod.mk.injEq]
    constructor
    · rintro ⟨j, _, hj, rfl, rfl⟩
      refine ⟨by omega, ?_⟩
      rw [Nat.zero_add]
      exact hj
    · rintro ⟨hlt, hi⟩
      obtain ⟨j, rfl⟩ := Nat.exists_eq_add_of_lt hlt
      exact ⟨j, n, by rw [← hi]; congr 1; omega, rfl, by omega⟩
  | false =>
    simp only [Bool.false_eq_true, if_false, List.mem_reverse]
    simp only [List.mem_iff_getElem?, List.getElem?_take, List.getElem?_zipIdx]
    constructor
    · rintro ⟨j, hj⟩
      split at hj
      · rename_i hlt
        obtain ⟨_, hitem, he⟩ := Option.map_eq_some_iff.1 hj
        cases he
        rw [Nat.zero_add]
        exact ⟨hlt, hitem⟩
      · cases hj
    · rintro ⟨hlt, hi⟩
      exact ⟨i, by simp [hlt, hi]⟩

theorem mem_siblings {i : Nat} {t : Tag} :
    (i, t) ∈ siblings forward k nodes ↔ (if forward then k < i else i < k)
      ∧ ∃ e : Element, (items nodes)[i]? = some e.node ∧ e.tag = t := by
  simp only [siblings, List.mem_filterMap, Option.map_eq_some_iff, Prod.exists, Prod.mk.injEq,
    Node.element?_eq_some_iff, mem_zipIdx_side]
  constructor
  · rintro ⟨_, j, ⟨hside, hj⟩, e, rfl, rfl, rfl⟩
    exact ⟨hside, e, hj, rfl⟩
  · rintro ⟨hside, e, he, rfl⟩
    exact ⟨_, i, ⟨hside, he⟩, e, rfl, rfl, rfl⟩

theorem pairwise_siblings (forward : Bool) (k : Nat) (nodes : List Node) :
    (siblings forward k nodes).Pairwise fun x y =>
    if forward then x.1 < y.1 else y.1 < x.1 := by
  have hindexes : (items nodes).zipIdx.Pairwise fun x y => x.2 < y.2 := by
    rw [List.pairwise_iff_getElem]
    intro i j hi hj hij
    simpa using hij
  cases forward with
  | true =>
    refine List.Pairwise.filterMap _ ?_ hindexes.drop
    rintro ⟨n, i⟩ ⟨n', j⟩ hij x hx y hy
    obtain ⟨e, -, rfl⟩ := Option.map_eq_some_iff.1 hx
    obtain ⟨e', -, rfl⟩ := Option.map_eq_some_iff.1 hy
    exact hij
  | false =>
    refine List.Pairwise.filterMap _ ?_ (List.pairwise_reverse.2 hindexes.take)
    rintro ⟨n, i⟩ ⟨n', j⟩ hij x hx y hy
    obtain ⟨e, -, rfl⟩ := Option.map_eq_some_iff.1 hx
    obtain ⟨e', -, rfl⟩ := Option.map_eq_some_iff.1 hy
    exact hij

theorem sibling?_ok {m : Marker} {b : Address} {s : Option (Nat × Tag)} {w w' : Work}
    (hm : m.address = b ++ [k]) (h : sibling? m forward w = .ok (s, w')) :
    ∃ above x, w.root.locate [] b = some (above, x)
      ∧ s = (siblings forward k x.children).head? := by
  have hlast : m.address.getLast? = some k := by rw [hm, List.getLast?_concat]
  have hdrop : m.address.dropLast = b := by rw [hm, List.dropLast_concat]
  simp only [sibling?, hlast, hdrop] at h
  obtain ⟨q, mid, hq, hs⟩ := bind_ok h
  obtain ⟨-, -, hl⟩ := placeAt_ok hq
  exact ⟨q.above, q.element, hl, (pure_ok hs).1⟩

end Working

end Siblings

section Due

variable {p : Pass} {root : Element} {nodes done : List Place} {q : Place} {b : Address} {k : Nat}

theorem Pass.Due.locate_parent (h : Pass.Due nodes done q)
    (hnodes : nodes = p.selector.nodes root) (hb : q.address = b ++ [k]) :
    ∃ above x, root.locate [] b = some (above, x)
      ∧ (p.workOn root nodes done q).root.locate [] b
        = some (above, (x.cut (p.placeholders done) b).modifyTag p.selector.plainTag [k]) := by
  have hl := mem_places_iff.1 (h.mem_places hnodes)
  rw [hb, locate_append] at hl
  obtain ⟨⟨above, x⟩, hx, -⟩ := Option.bind_eq_some_iff.1 hl
  have haround : b <+: q.address := hb ▸ List.prefix_append b [k]
  have hfree : ∀ c, c ≠ [] → c <+: b → p.placeholders done ([] ++ c) = none :=
    fun _ _ hc => h.placeholders_eq_none (hc.trans haround)
  have hcut := locate_cut hx hfree
  refine ⟨above, x, hx, ?_⟩
  rw [Pass.workOn, hb, Element.modifyTag, Element.locate_replaceAt_append, hcut]
  rfl

/-- The siblings of a node when work on it goes on: the elements beside it, and the placeholders of
those that are done. -/
theorem Pass.Due.mem_siblings (h : Pass.Due nodes done q)
    (hnodes : nodes = p.selector.nodes root) (hb : q.address = b ++ [k]) {above : List Tag}
    {x : Element} (hx : (p.workOn root nodes done q).root.locate [] b = some (above, x))
    {forward : Bool} {i : Nat} {t : Tag} :
    (i, t) ∈ Working.siblings forward k x.children ↔ (if forward then k < i else i < k)
      ∧ ∃ r ∈ root.places, r.address = b ++ [i]
        ∧ ((p.placeholders done r.address).getD r.element).tag = t := by
  obtain ⟨above', x', hx', hlocate⟩ := h.locate_parent hnodes hb
  rw [hlocate] at hx
  cases hx
  rw [Working.mem_siblings]
  refine and_congr_right fun hside => ?_
  have hne : i ≠ k := by
    split at hside <;> omega
  have hitems : (items ((x'.cut (p.placeholders done) b).modifyTag p.selector.plainTag
      [k]).children)[i]? = (items (cutNodes (p.placeholders done) b 0 x'.children))[i]? :=
    by
      rw [Element.modifyTag, Element.replaceAt_cons]
      exact getElem?_items_modifyChild_of_ne (Node.isCharacters_mapElement _) hne _
  rw [hitems, exists_items_cutNodes_iff]
  constructor
  · rintro ⟨y, hy, ht⟩
    exact ⟨⟨b ++ [i], x'.tag :: _, y⟩, (mem_places_concat_iff hx' rfl).2 ⟨rfl, hy⟩, rfl, ht⟩
  · rintro ⟨r, hr, ha, ht⟩
    exact ⟨r.element, ((mem_places_concat_iff hx' ha).1 hr).2, ha ▸ ht⟩

/-- The nearest element on one side of a node as it stands when work on the node goes on: it comes
before all others on that side. -/
theorem Working.sibling?_eq_some_iff (h : Pass.Due nodes done q)
    (hnodes : nodes = p.selector.nodes root) (hb : q.address = b ++ [k]) {forward : Bool}
    {w w' : Work} (hw : w.root = (p.workOn root nodes done q).root) {s : Option (Nat × Tag)}
    (hs : sibling? (p.markerOf nodes q) forward w = .ok (s, w')) {i : Nat} {t : Tag} :
    s = some (i, t) ↔ ((if forward then k < i else i < k)
        ∧ ∃ r ∈ root.places, r.address = b ++ [i]
          ∧ ((p.placeholders done r.address).getD r.element).tag = t)
      ∧ ∀ r ∈ root.places, ∀ n, r.address = b ++ [n] → (if forward then k < n else n < k) →
        ¬if forward then n < i else i < n := by
  obtain ⟨above, x, hx, rfl⟩ := sibling?_ok (k := k) hb hs
  have hmem (i : Nat) (t : Tag) : (i, t) ∈ siblings forward k x.children ↔
      (if forward then k < i else i < k) ∧ ∃ r ∈ root.places, r.address = b ++ [i]
        ∧ ((p.placeholders done r.address).getD r.element).tag = t :=
    h.mem_siblings hnodes hb (hw ▸ hx)
  have hasymm : ∀ x y : Nat × Tag, (if forward then x.1 < y.1 else y.1 < x.1) →
      ¬if forward then y.1 < x.1 else x.1 < y.1 := by
    intro x y
    split <;> exact Nat.lt_asymm
  rw [head?_eq_some_iff_of_pairwise (pairwise_siblings forward k x.children) hasymm, hmem]
  refine and_congr_right fun _ => ⟨fun hfirst r hr n hn hside => ?_, fun hnearest y hy => ?_⟩
  · exact hfirst (n, _) ((hmem _ _).2 ⟨hside, r, hr, hn, rfl⟩)
  · obtain ⟨hside, r, hr, hn, -⟩ := (hmem _ _).1 hy
    exact hnearest r hr _ hn hside

theorem Working.sibling?_after_ok (h : Pass.Due nodes done q)
    (hnodes : nodes = p.selector.nodes root) (hb : q.address = b ++ [k]) {w w' : Work}
    (hw : w.root = (p.workOn root nodes done q).root) {s : Option (Nat × Tag)}
    (hs : sibling? (p.markerOf nodes q) true w = .ok (s, w')) :
    s = (root.after? q).map fun r =>
      (r.address.getLastD 0, ((p.placeholders done r.address).getD r.element).tag) := by
  refine Option.ext fun ⟨i, t⟩ => ?_
  rw [sibling?_eq_some_iff h hnodes hb hw hs, Option.map_eq_some_iff]
  simp only [if_true]
  constructor
  · rintro ⟨⟨hki, r, hr, ha, ht⟩, hnearest⟩
    have hjust := (Place.isJustBefore_concat_iff hb ha).2 ⟨hki, hnearest⟩
    exact ⟨r, Element.after?_eq_some_iff.2 ⟨hr, hjust⟩, by rw [ht, ha, List.getLastD_concat]⟩
  · rintro ⟨r, hafter, he⟩
    obtain ⟨hr, hjust⟩ := Element.after?_eq_some_iff.1 hafter
    obtain ⟨j, ha⟩ := Address.isBeside_concat_iff.1 (hb ▸ hjust.beside)
    obtain ⟨hkj, hnearest⟩ := (Place.isJustBefore_concat_iff hb ha).1 hjust
    obtain ⟨rfl, rfl⟩ := Prod.mk.inj he
    rw [ha, List.getLastD_concat]
    exact ⟨⟨hkj, r, hr, ha, by rw [ha]⟩, hnearest⟩

theorem Working.sibling?_before_ok (h : Pass.Due nodes done q)
    (hnodes : nodes = p.selector.nodes root) (hb : q.address = b ++ [k]) {w w' : Work}
    (hw : w.root = (p.workOn root nodes done q).root) {s : Option (Nat × Tag)}
    (hs : sibling? (p.markerOf nodes q) false w = .ok (s, w')) :
    s = (root.before? q).map fun r =>
      (r.address.getLastD 0, ((p.placeholders done r.address).getD r.element).tag) := by
  refine Option.ext fun ⟨i, t⟩ => ?_
  rw [sibling?_eq_some_iff h hnodes hb hw hs, Option.map_eq_some_iff]
  simp only [Bool.false_eq_true, if_false]
  constructor
  · rintro ⟨⟨hik, r, hr, ha, ht⟩, hnearest⟩
    have hjust := (Place.isJustBefore_concat_iff ha hb).2
      ⟨hik, fun s hs n hn hin hnk => hnearest s hs n hn hnk hin⟩
    exact ⟨r, Element.before?_eq_some_iff.2 ⟨hr, hjust⟩, by rw [ht, ha, List.getLastD_concat]⟩
  · rintro ⟨r, hbefore, he⟩
    obtain ⟨hr, hjust⟩ := Element.before?_eq_some_iff.1 hbefore
    have hbeside := hjust.beside
    rw [Address.isBeside_comm, hb] at hbeside
    obtain ⟨j, ha⟩ := Address.isBeside_concat_iff.1 hbeside
    obtain ⟨hjk, hnearest⟩ := (Place.isJustBefore_concat_iff ha hb).1 hjust
    obtain ⟨rfl, rfl⟩ := Prod.mk.inj he
    rw [ha, List.getLastD_concat]
    exact ⟨⟨hjk, r, hr, ha, by rw [ha]⟩, fun s hs n hn hnk hjn => hnearest s hs n hn hjn hnk⟩

end Due

section Relations

variable {p : Pass} {policy : Policy} {root : Element} {name : String} {q r : Place}
  {before done : List Place}

theorem Policy.Names.isPlaceholder_eq (hname : policy.Names name) (t : Tag) :
    policy.isPlaceholder t = (name == t.name.expanded) := by
  rw [Policy.isPlaceholder, hname.placeholder]
  rfl

theorem Policy.Names.isPlaceholder_eq_false (hname : policy.Names name) {t : Tag}
    (ht : t.name.isPlainly name = false) : policy.isPlaceholder t = false := by
  rw [hname.isPlaceholder_eq, beq_eq_false_iff_ne]
  intro he
  obtain ⟨c, cs, hc, hstarts⟩ := startsPart_of_isPart hname.isPart
  cases huri : t.name.uri with
  | none =>
    rw [Name.expanded, huri] at he
    simp [Name.isPlainly, huri, he] at ht
  | some u =>
    rw [Name.expanded, huri] at he
    rw [he] at hc
    simp only [String.toList_append, List.append_assoc] at hc
    have hbrace : c = '\x7b' := (List.cons.inj hc).1.symm
    rw [hbrace] at hstarts
    exact absurd hstarts (by decide)

theorem Policy.Names.isPlaceholder_plainPlaceholder (hname : policy.Names name) (id : String) :
    policy.isPlaceholder (plainPlaceholder name id).tag = true := by
  rw [hname.isPlaceholder_eq]
  exact beq_self_eq_true name

theorem Pass.markerAt?_eq (hp : Starts policy root p) (a : Address) :
    (p.markerAt? a).map (·.id)
      = ((p.selector.nodes root).find? (·.address == a)).map fun n => p.idAt n.address := by
  rw [markerAt?, hp.markers, markersOf_eq (p.selector.pairwise_nodes root), List.find?_map,
    Option.map_map]
  rfl

theorem Pass.ancestorAt_eq_none_iff (p : Pass) (root : Element) {a : Address} :
    p.ancestorAt (p.selector.nodes root) a = none ↔ a = [] := by
  rw [ancestorAt_eq, Option.map_eq_none_iff, nodeAbove?_eq_none_iff]
  constructor
  · intro hnone
    exact (hnone _ (Selector.root_mem_nodes p.selector root) List.nil_prefix).symm
  · rintro rfl n _ hpre
    exact List.prefix_nil.1 hpre

theorem Pass.isNone_ancestor (p : Pass) (root : Element) (hroot : q.address ≠ []) :
    (p.markerOf (p.selector.nodes root) q).ancestor.isNone = false := by
  rw [Bool.eq_false_iff, ne_eq, Option.isNone_iff_eq_none]
  exact fun hnone => hroot ((p.ancestorAt_eq_none_iff root).1 hnone)

theorem Pass.placeholders_of_isHigher
    (h : byDepth (p.selector.nodes root) = before ++ q :: done) (hr : r ∈ root.places)
    (hqr : q.IsHigher r) :
    p.placeholders done r.address = p.placeholders (p.selector.nodes root) r.address := by
  refine placeholders_congr (Place.apart_nodes p.selector root) (due_of_nodes h).old ?_
  intro n hn ha
  rw [← eq_of_mem_places (Selector.mem_places_of_mem_nodes hn) hr ha] at hqr
  exact (mem_of_byDepth_iff (p.selector.pairwise_nodes root) h).2 ⟨hn, hqr⟩

theorem Pass.placeholders_eq_none_of_isHigher
    (h : byDepth (p.selector.nodes root) = before ++ q :: done) (hr : r ∈ root.places)
    (hrq : r.IsHigher q) : p.placeholders done r.address = none := by
  refine placeholders_eq_none fun n hn ha => ?_
  obtain ⟨hnode, hhigher⟩ := (mem_of_byDepth_iff (p.selector.pairwise_nodes root) h).1 hn
  rw [eq_of_mem_places (Selector.mem_places_of_mem_nodes hnode) hr ha] at hhigher
  exact hhigher.asymm hrq

theorem map_find?_address (nodes : List Place) (f : Address → String) (a : Address) :
    (nodes.find? (·.address == a)).map (fun n => f n.address)
      = if nodes.any (·.address == a) then some (f a) else none := by
  cases hfind : nodes.find? (·.address == a) with
  | none =>
    have hany : nodes.any (·.address == a) = false := by
      rw [List.any_eq_false]
      exact List.find?_eq_none.1 hfind
    rw [hany]
    rfl
  | some n =>
    have ha : n.address = a := by simpa using List.find?_some hfind
    have hany : nodes.any (·.address == a) = true :=
      List.any_eq_true.2 ⟨n, List.mem_of_find?_eq_some hfind, by simp [ha]⟩
    rw [hany, Option.map_some, ha, if_pos rfl]

/-- The id by which an element before a node is known, which is still in place: the one written on
it if it is taken for a placeholder, or that of the node that it is. -/
def Markup.Place.idBefore? (taken : Tag → Bool) (nodes : List Place) (idAt : Address → String)
    (r : Place) : Option String :=
  if taken r.tag then r.tag.id?
  else if nodes.any (·.address == r.address) then some (idAt r.address) else none

theorem Markup.Place.idBefore?_of_not_taken {taken : Tag → Bool} {nodes : List Place}
    {idAt : Address → String} (h : taken r.tag = false) :
    r.idBefore? taken nodes idAt
      = if nodes.any (·.address == r.address) then some (idAt r.address) else none := by
  rw [idBefore?, h, if_neg Bool.false_ne_true]

theorem Working.next?_told (hp : Pass.Starts policy root p) (hname : policy.Names name)
    (h : byDepth (p.selector.nodes root) = before ++ q :: done)
    {w w' : Work} (hw : w.root = (p.workOn root (p.selector.nodes root) done q).root)
    {s : Option String}
    (hs : next? p (p.markerOf (p.selector.nodes root) q) w = .ok (s, w')) :
    s = (root.after? q).bind
      (Place.idInside? policy.isPlaceholder (p.selector.nodes root) p.idAt) := by
  have hdue := Pass.due_of_nodes h
  have hq := Selector.mem_places_of_mem_nodes hdue.mem
  rcases List.eq_nil_or_concat' q.address with hroot | ⟨b, k, hb⟩
  · have hnone : (p.markerOf (p.selector.nodes root) q).ancestor = none :=
      (p.ancestorAt_eq_none_iff root).2 hroot
    rw [next?, hnone] at hs
    rw [(pure_ok hs).1, Element.after?_of_root hroot]
    rfl
  · rw [next?, p.isNone_ancestor root (by simp [hb])] at hs
    obtain ⟨found, mid, hfound, hs⟩ := bind_ok hs
    obtain rfl := sibling?_after_ok (k := k) hdue rfl hb hw hfound
    cases hafter : root.after? q with
    | none =>
      rw [hafter] at hs
      exact (pure_ok hs).1
    | some r =>
      obtain ⟨hr, hjust⟩ := Element.after?_eq_some_iff.1 hafter
      have hstanding := Pass.placeholders_of_isHigher h hr (hjust.isHigher hq hr)
      rw [hafter] at hs
      simp only [Option.map_some, hstanding, hp.policy_eq, Pass.placeholders_eq hp hname] at hs
      rw [Option.bind_some, Place.idInside?]
      cases hany : (p.selector.nodes root).any (·.address == r.address) with
      | true =>
        rw [hany] at hs
        simp only [if_true, Option.getD_some, hname.isPlaceholder_plainPlaceholder] at hs
        obtain ⟨id, mid', hid, hs⟩ := bind_ok hs
        rw [(pure_ok hs).1, resolve_ok hid, id?_plainPlaceholder, if_pos rfl]
        rfl
      | false =>
        rw [hany] at hs
        simp only [Bool.false_eq_true, if_false, Option.getD_none] at hs
        cases htaken : policy.isPlaceholder r.tag with
        | true =>
          have htaken' : policy.isPlaceholder r.element.tag = true := htaken
          rw [htaken', if_pos rfl] at hs
          obtain ⟨id, mid', hid, hs⟩ := bind_ok hs
          rw [(pure_ok hs).1, resolve_ok hid]
          rfl
        | false =>
          have htaken' : policy.isPlaceholder r.element.tag = false := htaken
          rw [htaken', if_neg Bool.false_ne_true] at hs
          exact (pure_ok hs).1

theorem Working.previous?_told (hp : Pass.Starts policy root p)
    (h : byDepth (p.selector.nodes root) = before ++ q :: done)
    {w w' : Work} (hw : w.root = (p.workOn root (p.selector.nodes root) done q).root)
    {s : Option String}
    (hs : previous? p (p.markerOf (p.selector.nodes root) q) w = .ok (s, w')) :
    s = (root.before? q).bind
      (Place.idBefore? policy.isPlaceholder (p.selector.nodes root) p.idAt) := by
  have hdue := Pass.due_of_nodes h
  have hq := Selector.mem_places_of_mem_nodes hdue.mem
  rcases List.eq_nil_or_concat' q.address with hroot | ⟨b, k, hb⟩
  · have hnone : (p.markerOf (p.selector.nodes root) q).ancestor = none :=
      (p.ancestorAt_eq_none_iff root).2 hroot
    rw [previous?, hnone] at hs
    rw [(pure_ok hs).1, Element.before?_of_root hroot]
    rfl
  · rw [previous?, p.isNone_ancestor root (by simp [hb])] at hs
    obtain ⟨found, mid, hfound, hs⟩ := bind_ok hs
    obtain rfl := sibling?_before_ok hdue rfl hb hw hfound
    cases hbefore : root.before? q with
    | none =>
      rw [hbefore] at hs
      exact (pure_ok hs).1
    | some r =>
      obtain ⟨hr, hjust⟩ := Element.before?_eq_some_iff.1 hbefore
      have hstanding := Pass.placeholders_eq_none_of_isHigher h hr (hjust.isHigher hr hq)
      have haddress : q.address.dropLast ++ [r.address.getLastD 0] = r.address := by
        have hbeside := hjust.beside
        rw [Address.isBeside_comm, hb] at hbeside
        obtain ⟨j, ha⟩ := Address.isBeside_concat_iff.1 hbeside
        rw [hb, ha, List.dropLast_concat, List.getLastD_concat]
      have hmarker : (p.markerOf (p.selector.nodes root) q).address = q.address := rfl
      rw [hbefore] at hs
      simp only [Option.map_some, hstanding, hp.policy_eq, Option.getD_none, hmarker,
        haddress] at hs
      rw [Option.bind_some, Place.idBefore?]
      split at hs
      · rename_i htaken
        exact (pure_ok hs).1.trans (if_pos htaken).symm
      · rename_i htaken
        refine (pure_ok hs).1.trans (((p.markerAt?_eq hp _).trans ?_).trans (if_neg htaken).symm)
        exact map_find?_address _ p.idAt _

theorem Working.next?_ok (hp : Pass.Starts policy root p) (hname : policy.Names name)
    (hlacks : root.Lacks name) (h : byDepth (p.selector.nodes root) = before ++ q :: done)
    {w w' : Work} (hw : w.root = (p.workOn root (p.selector.nodes root) done q).root)
    {s : Option String}
    (hs : next? p (p.markerOf (p.selector.nodes root) q) w = .ok (s, w')) :
    s = ((root.after? q).bind fun r => (p.selector.nodes root).find? (·.address == r.address)).map
      fun r => p.idAt r.address := by
  rw [next?_told hp hname h hw hs, Option.map_bind]
  refine Option.bind_congr fun r hr => ?_
  have hmem := (Element.after?_eq_some_iff.1 hr).1
  rw [Place.idInside?_of_not_taken (hname.isPlaceholder_eq_false (hlacks r hmem)),
    ← map_find?_address]
  rfl

theorem Working.previous?_ok (hp : Pass.Starts policy root p) (hname : policy.Names name)
    (hlacks : root.Lacks name) (h : byDepth (p.selector.nodes root) = before ++ q :: done)
    {w w' : Work} (hw : w.root = (p.workOn root (p.selector.nodes root) done q).root)
    {s : Option String}
    (hs : previous? p (p.markerOf (p.selector.nodes root) q) w = .ok (s, w')) :
    s = ((root.before? q).bind fun r => (p.selector.nodes root).find? (·.address == r.address)).map
      fun r => p.idAt r.address := by
  rw [previous?_told hp h hw hs, Option.map_bind]
  refine Option.bind_congr fun r hr => ?_
  have hmem := (Element.before?_eq_some_iff.1 hr).1
  rw [Place.idBefore?_of_not_taken (hname.isPlaceholder_eq_false (hlacks r hmem)),
    ← map_find?_address]
  rfl

end Relations

section Told

variable {nodes : List Place} {fields : Place → NodeFields}

/-- How the tokens of nodes tell what is beside them: the node before and the node after, if the
nearest elements there are nodes. -/
structure KnowsSiblings (root : Element) (nodes : List Place) (fields : Place → NodeFields) :
    Prop where
  alone : ∀ q ∈ nodes, q.address = [] → (fields q).previous = none ∧ (fields q).next = none
  previous : ∀ q ∈ nodes, (fields q).previous
    = ((root.before? q).bind fun r => nodes.find? (·.address == r.address)).map
        fun r => (fields r).id
  next : ∀ q ∈ nodes, (fields q).next
    = ((root.after? q).bind fun r => nodes.find? (·.address == r.address)).map
        fun r => (fields r).id

variable {p : Pass} {policy : Policy} {root : Element} {name : String} {blocks : List Block}

theorem Pass.Blocks.knowsSiblings (h : p.Blocks root blocks) (hp : Starts policy root p)
    (hname : policy.Names name) (hlacks : root.Lacks name)
    (hfields : ∀ b ∈ blocks, fields b.place = p.nodeFields (p.selector.nodes root) b) :
    KnowsSiblings root (p.selector.nodes root) fields := by
  have hids : ∀ r? : Option Place,
      ((r?.bind fun r => (p.selector.nodes root).find? (·.address == r.address)).map
        fun r => p.idAt r.address)
      = (r?.bind fun r => (p.selector.nodes root).find? (·.address == r.address)).map
          fun r => (fields r).id := by
    intro r?
    refine Option.map_congr fun n hn => ?_
    obtain ⟨r, -, hfind⟩ := Option.bind_eq_some_iff.1 hn
    exact (h.id_fields hfields (List.mem_of_find?_eq_some hfind)).symm
  have hprevious : ∀ q ∈ p.selector.nodes root, (fields q).previous
      = ((root.before? q).bind fun r =>
          (p.selector.nodes root).find? (·.address == r.address)).map fun r => (fields r).id := by
    intro q hq
    obtain ⟨b, hb, rfl⟩ := h.exists_block hq
    obtain ⟨before, after, hsplit, hdescribes⟩ := h.describes b hb
    obtain ⟨ts, hrun⟩ := hdescribes.previous
    rw [hfields b hb, ← hids]
    exact Working.previous?_ok hp hname hlacks hsplit (by rfl) hrun
  have hnext : ∀ q ∈ p.selector.nodes root, (fields q).next
      = ((root.after? q).bind fun r =>
          (p.selector.nodes root).find? (·.address == r.address)).map fun r => (fields r).id := by
    intro q hq
    obtain ⟨b, hb, rfl⟩ := h.exists_block hq
    obtain ⟨before, after, hsplit, hdescribes⟩ := h.describes b hb
    obtain ⟨ts, hrun⟩ := hdescribes.next
    rw [hfields b hb, ← hids]
    exact Working.next?_ok hp hname hlacks hsplit (by rfl) hrun
  refine ⟨fun q hq hroot => ?_, hprevious, hnext⟩
  rw [hprevious q hq, hnext q hq, Element.before?_of_root hroot, Element.after?_of_root hroot]
  exact ⟨rfl, rfl⟩

/-- The node after a node comes later by depth. -/
theorem KnowsSiblings.next_later (h : KnowsSiblings root nodes fields)
    (hplaces : ∀ q ∈ nodes, q ∈ root.places)
    (horder : nodes.Pairwise fun p q => p.address < q.address) {before after : List Place}
    {q : Place} {id : String} (hsplit : byDepth nodes = before ++ q :: after)
    (hnext : (fields q).next = some id) : ∃ r ∈ after, (fields r).id = id := by
  have hq : q ∈ nodes := by
    rw [← mem_byDepth, hsplit]
    simp
  rw [h.next q hq, Option.map_eq_some_iff] at hnext
  obtain ⟨n, hn, hid⟩ := hnext
  obtain ⟨r, hr, hfind⟩ := Option.bind_eq_some_iff.1 hn
  have hmem := List.mem_of_find?_eq_some hfind
  have ha : n.address = r.address := by simpa using List.find?_some hfind
  obtain ⟨hrplaces, hjust⟩ := Element.after?_eq_some_iff.1 hr
  obtain rfl := eq_of_mem_places (hplaces n hmem) hrplaces ha
  have hhigher := hjust.isHigher (hplaces q hq) hrplaces
  exact ⟨n, (mem_of_byDepth_iff horder hsplit).2 ⟨hmem, hhigher⟩, hid⟩

/-- Nodes with different ids know each other from both sides. -/
theorem KnowsSiblings.next_eq_iff_previous_eq (h : KnowsSiblings root nodes fields)
    (hplaces : ∀ q ∈ nodes, q ∈ root.places) (hids : (nodes.map fun q => (fields q).id).Nodup)
    {q r : Place} (hq : q ∈ nodes) (hr : r ∈ nodes) :
    (fields q).next = some (fields r).id ↔ (fields r).previous = some (fields q).id := by
  have happart : Place.Apart nodes :=
    fun _ hx _ hy ha => eq_of_mem_places (hplaces _ hx) (hplaces _ hy) ha
  have hinj := List.inj_on_of_nodup_map hids
  -- With different ids, an id that is told stands for the node that is meant.
  have htold : ∀ (r? : Option Place), (∀ r ∈ r?, r ∈ root.places) → ∀ n ∈ nodes,
      ((r?.bind fun r => nodes.find? (·.address == r.address)).map (fun r => (fields r).id)
        = some (fields n).id ↔ r? = some n) := by
    intro r? hr? n hn
    rw [Option.map_eq_some_iff]
    constructor
    · rintro ⟨m, hm, hid⟩
      obtain ⟨x, hx, hfind⟩ := Option.bind_eq_some_iff.1 hm
      obtain ⟨hmem, ha⟩ := (find?_eq_some_iff_mem happart).1 hfind
      rw [hx, ← hinj hmem hn hid, eq_of_mem_places (hplaces m hmem) (hr? x hx) ha]
    · rintro rfl
      exact ⟨n, (find?_eq_some_iff_mem happart).2 ⟨hn, rfl⟩, rfl⟩
  rw [h.next q hq, h.previous r hr,
    htold _ (fun x hx => (Element.after?_eq_some_iff.1 hx).1) r hr,
    htold _ (fun x hx => (Element.before?_eq_some_iff.1 hx).1) q hq]
  exact Element.after?_eq_some_iff_before? (hplaces q hq) (hplaces r hr)

end Told

namespace Document

/-- What a stream tells of the elements beside nodes. A node after another one comes later in the
stream, and it knows that one as the node before it, if nodes have different ids. -/
theorem lex_siblings {policy : Policy} {name : String} {d : Markup.Document}
    {file : Option String} {stream : LexedStream} (hname : policy.Names name)
    (hlacks : d.root.Lacks name) (h : (lex policy d file).run.1 = .ok stream) :
    ∃ (o : Outline) (nodes : List Place) (fields : Place → NodeFields),
      o.IsOf policy d.root ∧ nodes = o.selector.nodes d.root
        ∧ stream.toList.filterMap Token.node? = (byDepth nodes).map fields
        ∧ (∀ q ∈ nodes, (fields q).id = o.idAt q.address ∧ (fields q).path = o.pathAt q.address)
        ∧ KnowsSiblings d.root nodes fields
        ∧ (∀ before t after f id, stream.toList = before ++ t :: after → t.node? = some f →
          f.next = some id → ∃ g ∈ after.filterMap Token.node?, g.id = id)
        ∧ ((nodes.map fun q => o.idAt q.address).Nodup → ∀ q ∈ nodes, ∀ r ∈ nodes,
          ((fields q).next = some (fields r).id ↔ (fields r).previous = some (fields q).id)) := by
  obtain ⟨p, blocks, hp, -, hblocks, hstream⟩ := lex_ok h
  obtain ⟨blockAt, hblockAt⟩ := hblocks.exists_blockAt
  let fields (q : Place) : NodeFields := p.nodeFields (p.selector.nodes d.root) (blockAt q)
  have hfields : ∀ b ∈ blocks, fields b.place = p.nodeFields (p.selector.nodes d.root) b :=
    fun b hb => congrArg (p.nodeFields (p.selector.nodes d.root)) (hblockAt b hb)
  have hplaces : ∀ q ∈ p.selector.nodes d.root, q ∈ d.root.places :=
    fun _ hq => Selector.mem_places_of_mem_nodes hq
  have hall : stream.toList.filterMap Token.node?
      = (byDepth (p.selector.nodes d.root)).map fields := by
    rw [hstream, nodeFields_stream hblocks, ← hblocks.places, List.map_map]
    exact List.map_congr_left fun b hb => (hfields b hb).symm
  have htold : ∀ q ∈ p.selector.nodes d.root,
      (fields q).id = (p.outline d.root).idAt q.address
        ∧ (fields q).path = (p.outline d.root).pathAt q.address := by
    intro q hq
    obtain ⟨b, hb, rfl⟩ := hblocks.exists_block hq
    rw [hfields b hb]
    exact ⟨hp.idAt_eq (hplaces _ hq), hp.pathAt_eq (hplaces _ hq)⟩
  have hknows := hblocks.knowsSiblings hp hname hlacks hfields
  refine ⟨p.outline d.root, p.selector.nodes d.root, fields, hp.isOf, rfl, hall, htold, hknows,
    ?_, fun hids q hq r hr => ?_⟩
  · intro before t after f id hsplit ht hnext
    rw [hsplit, List.filterMap_append, List.filterMap_cons_some ht] at hall
    obtain ⟨xs, ys, hxy, -, hys⟩ := List.map_eq_append_iff.1 hall.symm
    obtain ⟨q, zs, rfl, rfl, hzs⟩ := List.map_eq_cons_iff.1 hys
    obtain ⟨r, hr, hid⟩ := hknows.next_later hplaces (p.selector.pairwise_nodes d.root) hxy hnext
    exact ⟨fields r, hzs ▸ List.mem_map_of_mem hr, hid⟩
  · have hids' : ((p.selector.nodes d.root).map fun q => (fields q).id).Nodup := by
      rw [List.map_congr_left fun q hq => (htold q hq).1]
      exact hids
    exact hknows.next_eq_iff_previous_eq hplaces hids' hq hr

/-- `<r xmlns:x="urn:x"><x:a/><!-- c -->text<x:b/><p/><x:c/></r>` -/
def sampleOfSiblings : Markup.Document where
  version := "1.0"
  encoding := "UTF-8"
  leading := []
  doctype := none
  before := []
  root :=
    let helper (base : String) : Node := .element ⟨⟨some "x", some "urn:x", base⟩, [], [], 1⟩ []
    ⟨⟨.bare "r", [⟨some "x", "urn:x"⟩], [], 1⟩,
      [helper "a", .comment " c ", .text "text", helper "b", .element ⟨.bare "p", [], [], 1⟩ [],
        helper "c"]⟩
  after := []

theorem lex_siblings_sample : ∃ stream,
    (lex .standard sampleOfSiblings none).run.1 = .ok stream
      ∧ ∃ (nodes : List Place) (fields : Place → NodeFields),
        stream.toList.filterMap Token.node? = (byDepth nodes).map fields
          ∧ nodes.map (·.address) = [[], [0], [2], [4]]
          ∧ KnowsSiblings sampleOfSiblings.root nodes fields
          ∧ ∀ q ∈ nodes, ∀ r ∈ nodes,
            ((fields q).next = some (fields r).id ↔ (fields r).previous = some (fields q).id) := by
  obtain ⟨stream, h⟩ := Except.exists_of_isOk
    (show (lex .standard sampleOfSiblings none).run.1.isOk = true by decide +kernel)
  have hlacks : sampleOfSiblings.root.Lacks "__N_-_O_-_D_-_E__" := by
    rw [Element.Lacks]
    decide +kernel
  obtain ⟨o, nodes, fields, ho, rfl, hall, -, hknows, -, hboth⟩ :=
    lex_siblings Policy.names_standard hlacks h
  obtain rfl : o = ⟨⟨["urn:x"], .standard, fun _ => ""⟩, .sha1, sampleOfSiblings.root⟩ :=
    ho.eq (by decide +kernel) Policy.hashing_standard
  exact ⟨stream, h, _, fields, hall, by decide +kernel, hknows, hboth (by decide +kernel)⟩

/-- Among the paths of the twins, different ones have different ids. -/
theorem pathAt_eq_of_idAt_twins {o : Outline}
    (ho : o = ⟨⟨["urn:p"], .standard, fun _ => ""⟩, .sha1, twins.root⟩) :
    ∀ q ∈ twins.root.places, ∀ r ∈ twins.root.places,
      o.idAt q.address = o.idAt r.address → o.pathAt q.address = o.pathAt r.address := by
  have hpath : o.pathAt [0] = o.pathAt [1] := by
    have hsteps : twins.root.steps [0] = twins.root.steps [1] := by decide +kernel
    rw [ho, Outline.pathAt, Outline.pathAt, Element.path?, Element.path?, hsteps]
  have hroot : o.idAt [] ≠ o.idAt [0] := by
    rw [ho]
    decide +kernel
  have htwin : o.idAt [1] = o.idAt [0] := by rw [Outline.idAt, ← hpath, Outline.idAt]
  have haddress : ∀ q ∈ twins.root.places,
      q.address = [] ∨ q.address = [0] ∨ q.address = [1] := by decide +kernel
  have hone : ∀ q ∈ twins.root.places, q.address ≠ [] →
      o.idAt q.address = o.idAt [0] ∧ o.pathAt q.address = o.pathAt [0] := by
    intro q hq hne
    rcases haddress q hq with h | h | h
    · exact absurd h hne
    · rw [h]
      exact ⟨rfl, rfl⟩
    · rw [h]
      exact ⟨htwin, hpath.symm⟩
  intro q hq r hr hid
  by_cases hqroot : q.address = [] <;> by_cases hrroot : r.address = []
  · rw [hqroot, hrroot]
  · rw [hqroot, (hone r hr hrroot).1] at hid
    exact absurd hid hroot
  · rw [hrroot, (hone q hq hqroot).1] at hid
    exact absurd hid.symm hroot
  · rw [(hone q hq hqroot).2, (hone r hr hrroot).2]

/-- Of two nodes with one id, the first one knows the second one as the node after it, and so itself
by its id, but it knows no node before it. -/
theorem lex_siblings_twins :
    twins.root.Lacks "__N_-_O_-_D_-_E__"
      ∧ (let o : Outline := ⟨⟨["urn:p"], .standard, fun _ => ""⟩, .sha1, twins.root⟩
        ∀ q ∈ twins.root.places, ∀ r ∈ twins.root.places,
          o.idAt q.address = o.idAt r.address → o.pathAt q.address = o.pathAt r.address)
      ∧ ((lex .standard twins none).run.1.toOption.map fun stream =>
          (stream.toList.filterMap Token.node?).map fun f =>
            (f.next == some f.id, f.previous == some f.id))
        = some [(false, false), (true, false), (false, true)] := by
  refine ⟨by rw [Element.Lacks]; decide +kernel, ?_, by decide +kernel⟩
  exact pathAt_eq_of_idAt_twins rfl

end Document

end TemplateLexer
