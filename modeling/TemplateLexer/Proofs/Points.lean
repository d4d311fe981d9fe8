import Mathlib.Data.List.Nodup
import TemplateLexer.Proofs.Places
import TemplateLexer.Selection.Meaning

set_option autoImplicit false

namespace TemplateLexer.Query

open Markup

namespace Point

/-- Whether a point is the element at a place, an attribute of it, or another node right inside
it. -/
def BelongsTo : Point → Place → Prop
  | document, _ => False
  | element q, p => q = p
  | attr q i a, p => q = p ∧ p.tag.attributes[i]? = some a
  | leaf q i n, p => q = p ∧ p.element.children[i]? = some n ∧ n.isElement = false

def isSite (x : Point) : Bool := x.isElement || x.isAttribute

end Point

section Members

variable {a : Address} {above : List Tag} {n : Node} {nodes : List Node} {owner p q : Place}
  {index item : Nat} {x y : Point} {root : Element}

theorem mem_sitePoints_iff : x ∈ sitePoints p ↔ x.BelongsTo p ∧ x.isSite = true := by
  rw [sitePoints, List.mem_cons, List.mem_map]
  constructor
  · rintro (rfl | ⟨⟨a, i⟩, hai, rfl⟩)
    · exact ⟨rfl, rfl⟩
    · exact ⟨⟨rfl, List.mem_zipIdx_iff_getElem?.1 hai⟩, rfl⟩
  · rintro ⟨hx, hsite⟩
    cases x with
    | document => cases hx
    | element q => exact .inl (congrArg _ hx)
    | attr q i a =>
      obtain ⟨rfl, ha⟩ := hx
      exact .inr ⟨(a, i), List.mem_zipIdx_iff_getElem?.2 ha, rfl⟩
    | leaf q i n => cases hsite

theorem placesOf_of_not_isElement (h : n.isElement = false) : placesOf a above n = [] := by
  cases n with
  | element tag children => cases h
  | _ => simp [placesOf]

mutual

theorem mem_pointsOf_iff (a : Address) (above : List Tag) (n : Node) :
    x ∈ pointsOf a above n ↔ ∃ p ∈ placesOf a above n, x.BelongsTo p := by
  cases n with
  | element tag children =>
    have hsites : x ∈ sitePoints ⟨a, above, ⟨tag, children⟩⟩
        ↔ x.BelongsTo ⟨a, above, ⟨tag, children⟩⟩ ∧ x.isSite = true := mem_sitePoints_iff
    rw [pointsOf, List.mem_append, placesOf, List.exists_mem_cons_iff]
    refine (or_congr hsites (mem_pointsBelow_iff _ 0 0 children)).trans ?_
    constructor
    · rintro (⟨hx, -⟩ | ⟨i, n, hn, hleaf, rfl⟩ | hx)
      · exact .inl hx
      · exact .inl ⟨rfl, by rwa [Nat.zero_add], hleaf⟩
      · exact .inr hx
    · rintro (hx | hx)
      · cases x with
        | document => cases hx
        | element q => exact .inl ⟨hx, rfl⟩
        | attr q i a => exact .inl ⟨hx, rfl⟩
        | leaf q i n =>
          obtain ⟨rfl, hn, hleaf⟩ := hx
          exact .inr (.inl ⟨i, n, hn, hleaf, by rw [Nat.zero_add]⟩)
      · exact .inr (.inr hx)
  | text _ | cdata _ | comment _ | instruction _ _ | reference _ => simp [pointsOf, placesOf]

theorem mem_pointsBelow_iff (owner : Place) (index item : Nat) (nodes : List Node) :
    x ∈ pointsBelow owner index item nodes
      ↔ (∃ i n, nodes[i]? = some n ∧ n.isElement = false ∧ x = .leaf owner (index + i) n)
        ∨ ∃ p ∈ placesBelow owner.address owner.tags item nodes, x.BelongsTo p := by
  cases nodes with
  | nil => simp [pointsBelow, placesBelow]
  | cons n rest =>
    have hrest := mem_pointsBelow_iff owner (index + 1)
      (if n.isCharacters then item else item + 1) rest
    have hfirst := mem_pointsOf_iff (owner.address ++ [item]) owner.tags n
    have hlater : (∃ i m, rest[i]? = some m ∧ m.isElement = false
          ∧ x = .leaf owner (index + 1 + i) m)
        ↔ ∃ i m, (n :: rest)[i + 1]? = some m ∧ m.isElement = false
          ∧ x = .leaf owner (index + (i + 1)) m := by
      simp only [List.getElem?_cons_succ, Nat.add_assoc, Nat.add_comm 1]
    rw [pointsBelow, List.mem_append, hrest, hlater, placesBelow]
    simp only [List.mem_append, or_and_right, exists_or]
    cases hn : n.isElement with
    | true =>
      rw [if_pos rfl, hfirst]
      constructor
      · rintro (hx | ⟨i, m, hm⟩ | hx)
        · exact .inr (.inl hx)
        · exact .inl ⟨i + 1, m, hm⟩
        · exact .inr (.inr hx)
      · rintro (⟨i, m, hm, hleaf, hx⟩ | hx | hx)
        · cases i with
          | zero =>
            cases hm
            rw [hn] at hleaf
            cases hleaf
          | succ i => exact .inr (.inl ⟨i, m, hm, hleaf, hx⟩)
        · exact .inl hx
        · exact .inr (.inr hx)
    | false =>
      rw [if_neg Bool.false_ne_true, List.mem_singleton, placesOf_of_not_isElement hn]
      constructor
      · rintro (rfl | ⟨i, m, hm⟩ | hx)
        · exact .inl ⟨0, n, rfl, hn, rfl⟩
        · exact .inl ⟨i + 1, m, hm⟩
        · exact .inr (.inr hx)
      · rintro (⟨i, m, hm, hleaf, hx⟩ | ⟨p, hp, -⟩ | hx)
        · cases i with
          | zero =>
            cases hm
            exact .inl hx
          | succ i => exact .inr (.inl ⟨i, m, hm, hleaf, hx⟩)
        · cases hp
        · exact .inr (.inr hx)

end

theorem mem_points_iff : x ∈ points root ↔ x = .document ∨ ∃ p ∈ root.places, x.BelongsTo p := by
  rw [points, List.mem_cons, mem_pointsOf_iff]
  rfl

theorem element_mem_points_iff : .element p ∈ points root ↔ p ∈ root.places := by
  simp [mem_points_iff, Point.BelongsTo]

theorem attr_mem_points_iff {i : Nat} {t : Attribute} :
    .attr p i t ∈ points root ↔ p ∈ root.places ∧ p.tag.attributes[i]? = some t := by
  simp [mem_points_iff, Point.BelongsTo]

theorem leaf_mem_points_iff {i : Nat} : .leaf p i n ∈ points root
    ↔ p ∈ root.places ∧ p.element.children[i]? = some n ∧ n.isElement = false := by
  simp [mem_points_iff, Point.BelongsTo]

theorem eq_element_iff (hx : x ∈ points root) (hq : q ∈ root.places) :
    x = .element q ↔ ∃ p, x = .element p ∧ p.address = q.address := by
  constructor
  · rintro rfl
    exact ⟨q, rfl, rfl⟩
  · rintro ⟨p, rfl, h⟩
    exact congrArg _ (eq_of_mem_places (element_mem_points_iff.1 hx) hq h)

theorem isParentOf_attr_iff {i : Nat} {t : Attribute} (hx : x ∈ points root)
    (hq : q ∈ root.places) : x.isParentOf (.attr q i t) = true ↔ x = .element q := by
  rw [eq_element_iff hx hq]
  cases x <;> simp [Point.isParentOf]

theorem isParentOf_leaf_iff {i : Nat} (hx : x ∈ points root) (hq : q ∈ root.places) :
    x.isParentOf (.leaf q i n) = true ↔ x = .element q := by
  rw [eq_element_iff hx hq]
  cases x <;> simp [Point.isParentOf]

theorem isSame_self (x : Point) : x.isSame x = true := by
  cases x <;> simp [Point.isSame]

theorem eq_of_isSame (hx : x ∈ points root) (hy : y ∈ points root) (h : x.isSame y = true) :
    x = y := by
  cases x with
  | document => cases y <;> simp_all [Point.isSame]
  | element p =>
    cases y with
    | element q =>
      rw [element_mem_points_iff] at hx hy
      rw [eq_of_mem_places hx hy (by simpa [Point.isSame] using h)]
    | _ => cases h
  | attr p i s =>
    cases y with
    | attr q j t =>
      rw [attr_mem_points_iff] at hx hy
      simp only [Point.isSame, Bool.and_eq_true, beq_iff_eq] at h
      obtain rfl := eq_of_mem_places hx.1 hy.1 h.1
      obtain rfl := h.2
      rw [Option.some.inj (hx.2.symm.trans hy.2)]
    | _ => cases h
  | leaf p i s =>
    cases y with
    | leaf q j t =>
      rw [leaf_mem_points_iff] at hx hy
      simp only [Point.isSame, Bool.and_eq_true, beq_iff_eq] at h
      obtain rfl := eq_of_mem_places hx.1 hy.1 h.1
      obtain rfl := h.2
      rw [Option.some.inj (hx.2.1.symm.trans hy.2.1)]
    | _ => cases h

end Members

section Order

mutual

theorem filter_pointsOf (a : Address) (above : List Tag) (n : Node) :
    (pointsOf a above n).filter Point.isSite = (placesOf a above n).flatMap sitePoints := by
  cases n with
  | element tag children =>
    have hsites : (sitePoints ⟨a, above, ⟨tag, children⟩⟩).filter Point.isSite
        = sitePoints ⟨a, above, ⟨tag, children⟩⟩ :=
      List.filter_eq_self.2 fun x hx => (mem_sitePoints_iff.1 hx).2
    rw [pointsOf, List.filter_append, hsites, filter_pointsBelow _ 0 0 children, placesOf,
      List.flatMap_cons]
    rfl
  | text _ | cdata _ | comment _ | instruction _ _ | reference _ => simp [pointsOf, placesOf]

theorem filter_pointsBelow (owner : Place) (index item : Nat) (nodes : List Node) :
    (pointsBelow owner index item nodes).filter Point.isSite
      = (placesBelow owner.address owner.tags item nodes).flatMap sitePoints := by
  cases nodes with
  | nil => rfl
  | cons n rest =>
    rw [pointsBelow, List.filter_append, filter_pointsBelow owner _ _ rest, placesBelow,
      List.flatMap_append]
    cases hn : n.isElement with
    | true => rw [if_pos rfl, filter_pointsOf (owner.address ++ [item]) owner.tags n]
    | false =>
      rw [if_neg Bool.false_ne_true, placesOf_of_not_isElement hn]
      rfl

end

variable {s : Scene} {selected : Point → Bool}

theorem select_of_isSite (h : ∀ x, selected x = true → x.isSite = true) :
    s.select selected = s.root.places.flatMap fun p => (sitePoints p).filter selected := by
  have hsites : selected = fun x => selected x && x.isSite := by
    funext x
    cases hx : selected x with
    | false => rfl
    | true => rw [h x hx, Bool.and_true]
  have hpoints : (points s.root).filter Point.isSite = s.root.places.flatMap sitePoints :=
    filter_pointsOf [] [] s.root.node
  rw [Scene.select, hsites, ← List.filter_filter, hpoints, List.filter_flatMap]
  simp only [← hsites]

theorem nodup_sitePoints (p : Place) : (sitePoints p).Nodup := by
  have hindexes : (p.tag.attributes.zipIdx.map Prod.snd).Nodup :=
    List.zipIdx_map_snd 0 p.tag.attributes ▸ List.nodup_range'
  refine List.nodup_cons.2 ⟨?_, (List.Nodup.of_map _ hindexes).map ?_⟩
  · intro h
    obtain ⟨_, -, h⟩ := List.mem_map.1 h
    cases h
  · rintro ⟨a, i⟩ ⟨b, j⟩ h
    cases h
    rfl

theorem nodup_sites (root : Element) : (root.places.flatMap sitePoints).Nodup := by
  refine List.nodup_flatMap.2 ⟨fun p _ => nodup_sitePoints p, ?_⟩
  refine (nodup_of_pairwise root.pairwise_places).imp fun {p q} hne x hp hq => ?_
  have hpx := (mem_sitePoints_iff.1 hp).1
  have hqx := (mem_sitePoints_iff.1 hq).1
  cases x with
  | document => cases hpx
  | element r => exact hne (hpx.symm.trans hqx)
  | attr r i a => exact hne (hpx.1.symm.trans hqx.1)
  | leaf r i n => exact hne (hpx.1.symm.trans hqx.1)

theorem nodup_select (h : ∀ x, selected x = true → x.isSite = true) :
    (s.select selected).Nodup := by
  have hall : s.select selected = (s.root.places.flatMap sitePoints).filter selected := by
    rw [select_of_isSite h, List.filter_flatMap]
  exact hall ▸ (nodup_sites s.root).filter _

end Order

section Called

variable {s : Scene} {x : Point} {selected : Point → Bool}

theorem head?_select (hx : x ∈ points s.root) (hselected : selected x = true)
    (honly : ∀ y ∈ points s.root, selected y = true → y = x) :
    (s.select selected).head? = some x := by
  have hmem : x ∈ s.select selected := List.mem_filter.2 ⟨hx, hselected⟩
  cases hlist : s.select selected with
  | nil =>
    rw [hlist] at hmem
    cases hmem
  | cons y rest =>
    have hy : y ∈ s.select selected := hlist ▸ List.mem_cons_self ..
    rw [honly y (List.mem_filter.1 hy).1 (List.mem_filter.1 hy).2, List.head?_cons]

/-- The namespace of the point where a function is called. -/
theorem value_namespaceUri_here (hx : x ∈ points s.root) :
    (Expr.call .namespaceUri [.here]).value s x = .text x.uri := by
  have hfirst : (s.select x.isSame).head? = some x :=
    head?_select hx (isSame_self x) fun y hy h => (eq_of_isSame hx hy h).symm
  simp [Expr.value, valuesOf, Function.apply, Scene.subject, hfirst]

end Called

end TemplateLexer.Query
