import Mathlib.Data.List.Basic
import TemplateLexer.Markup.Place

set_option autoImplicit false

namespace TemplateLexer.Markup

namespace Address

theorem lt_append_cons (a : Address) (i : Nat) (x : Address) : a < a ++ i :: x := by
  induction a with
  | nil => exact List.nil_lt_cons _ _
  | cons j a ih => exact List.cons_lt_cons_iff.2 (.inr ⟨rfl, ih⟩)

theorem append_lt_append {i j : Nat} (h : i < j) (a x y : Address) :
    a ++ i :: x < a ++ j :: y := by
  induction a with
  | nil => exact List.cons_lt_cons_iff.2 (.inl h)
  | cons k a ih => exact List.cons_lt_cons_iff.2 (.inr ⟨rfl, ih⟩)

theorem lt_append_of_not_prefix {a b : Address} (h : a < b) (hp : ¬a <+: b) (x y : Address) :
    a ++ x < b ++ y := by
  induction a generalizing b with
  | nil => exact absurd (List.nil_prefix) hp
  | cons i a ih =>
    cases b with
    | nil => exact absurd h (List.not_lt_nil _)
    | cons j b =>
      rcases List.cons_lt_cons_iff.1 h with hij | ⟨rfl, hab⟩
      · exact List.cons_lt_cons_iff.2 (.inl hij)
      · have hab' : ¬a <+: b := fun hc => hp (List.cons_prefix_cons.2 ⟨rfl, hc⟩)
        exact List.cons_lt_cons_iff.2 (.inr ⟨rfl, ih hab hab'⟩)

theorem not_concat_prefix {a x : Address} {i j : Nat} (h : i ≠ j) : ¬a ++ [i] <+: a ++ j :: x := by
  rw [List.prefix_append_right_inj, List.cons_prefix_cons]
  exact fun hij => h hij.1

theorem lt_of_prefix_of_ne {a b : Address} (h : a <+: b) (hne : a ≠ b) : a < b := by
  obtain ⟨x, rfl⟩ := h
  cases x with
  | nil => simp at hne
  | cons i x => exact lt_append_cons a i x

theorem length_lt_of_prefix_of_ne {a b : Address} (h : a <+: b) (hne : a ≠ b) :
    a.length < b.length :=
  Nat.lt_of_le_of_ne h.length_le fun hl => hne (h.eq_of_length hl)

theorem prefix_of_prefix {a b c : Address} (ha : a <+: c) (hb : b <+: c)
    (hl : a.length ≤ b.length) : a <+: b :=
  List.prefix_of_prefix_length_le ha hb hl

end Address

theorem nodup_of_pairwise {xs : List Place}
    (h : xs.Pairwise fun p q => p.address < q.address) : xs.Nodup := by
  refine List.Pairwise.imp ?_ h
  rintro p q hpq rfl
  exact List.lt_irrefl _ hpq

theorem eq_of_mem_iff {xs ys : List Place}
    (hx : xs.Pairwise fun p q => p.address < q.address)
    (hy : ys.Pairwise fun p q => p.address < q.address)
    (h : ∀ p, p ∈ xs ↔ p ∈ ys) : xs = ys := by
  have hperm : xs.Perm ys :=
    (List.perm_ext_iff_of_nodup (nodup_of_pairwise hx) (nodup_of_pairwise hy)).2 h
  refine hperm.eq_of_pairwise ?_ hx hy
  intro p q _ _ hpq hqp
  exact absurd (List.lt_trans hpq hqp) (List.lt_irrefl _)

section Order

mutual

theorem prefix_of_mem_placesOf {a : Address} {above : List Tag} {n : Node} {q : Place}
    (h : q ∈ placesOf a above n) : a <+: q.address := by
  cases n with
  | element tag children =>
    rw [placesOf, List.mem_cons] at h
    rcases h with rfl | h
    · exact List.prefix_refl _
    · obtain ⟨j, x, -, hq⟩ := exists_of_mem_placesBelow h
      exact hq ▸ List.prefix_append _ _
  | text _ | cdata _ | comment _ | instruction _ _ | reference _ => simp [placesOf] at h

theorem exists_of_mem_placesBelow {a : Address} {tags : List Tag} {index : Nat}
    {nodes : List Node} {q : Place} (h : q ∈ placesBelow a tags index nodes) :
    ∃ j x, index ≤ j ∧ q.address = a ++ j :: x := by
  cases nodes with
  | nil => simp [placesBelow] at h
  | cons n rest =>
    rw [placesBelow, List.mem_append] at h
    rcases h with h | h
    · obtain ⟨x, hx⟩ := prefix_of_mem_placesOf h
      exact ⟨index, x, Nat.le_refl _, by rw [← hx, List.append_assoc]; rfl⟩
    · obtain ⟨j, x, hj, hq⟩ := exists_of_mem_placesBelow h
      refine ⟨j, x, ?_, hq⟩
      split at hj <;> omega

end

theorem prefix_of_mem_below {p q : Place} (h : q ∈ p.below) :
    p.address <+: q.address ∧ p.address ≠ q.address := by
  obtain ⟨j, x, -, hx⟩ := exists_of_mem_placesBelow h
  rw [hx]
  exact ⟨List.prefix_append _ _, by simp⟩

theorem placesOf_of_isCharacters {a : Address} {above : List Tag} {n : Node}
    (h : n.isCharacters = true) : placesOf a above n = [] := by
  cases n <;> simp_all [placesOf, Node.isCharacters]

mutual

theorem pairwise_placesOf (a : Address) (above : List Tag) (n : Node) :
    (placesOf a above n).Pairwise fun p q => p.address < q.address := by
  cases n with
  | element tag children =>
    rw [placesOf]
    refine .cons ?_ (pairwise_placesBelow a (tag :: above) 0 children)
    intro q hq
    obtain ⟨j, x, -, hx⟩ := exists_of_mem_placesBelow hq
    rw [hx]
    exact Address.lt_append_cons a j x
  | text _ | cdata _ | comment _ | instruction _ _ | reference _ => simp [placesOf]

theorem pairwise_placesBelow (a : Address) (tags : List Tag) (index : Nat) (nodes : List Node) :
    (placesBelow a tags index nodes).Pairwise fun p q => p.address < q.address := by
  cases nodes with
  | nil => simp [placesBelow]
  | cons n rest =>
    rw [placesBelow, List.pairwise_append]
    refine ⟨pairwise_placesOf _ _ _, pairwise_placesBelow _ _ _ _, ?_⟩
    intro p hp q hq
    cases hn : n.isCharacters with
    | true => simp [placesOf_of_isCharacters hn] at hp
    | false =>
      obtain ⟨x, hx⟩ := prefix_of_mem_placesOf hp
      obtain ⟨j, y, hj, hy⟩ := exists_of_mem_placesBelow hq
      simp only [hn, Bool.false_eq_true, if_false] at hj
      rw [← hx, hy, List.append_assoc]
      exact Address.append_lt_append (by omega) a x y

end

theorem Element.pairwise_places (root : Element) :
    root.places.Pairwise fun p q => p.address < q.address :=
  pairwise_placesOf [] [] root.node

end Order

section Way

theorem items_cons (n : Node) (rest : List Node) :
    items (n :: rest) = if n.isCharacters then items rest else n :: items rest := by
  cases h : n.isCharacters <;> simp [items, h]

mutual

theorem mem_placesOf_iff {a : Address} {above : List Tag} {n : Node} {q : Place} :
    q ∈ placesOf a above n ↔
      ∃ (e : Element) (b : Address), n.element? = some e ∧ q.address = a ++ b
        ∧ e.locate above b = some (q.above, q.element) := by
  cases n with
  | element tag children =>
    rw [placesOf, List.mem_cons, mem_placesBelow_iff]
    constructor
    · rintro (rfl | ⟨k, e, b, hk, hq, hl⟩)
      · exact ⟨_, [], rfl, by simp, rfl⟩
      · refine ⟨_, k :: b, rfl, by simpa using hq, ?_⟩
        rw [Element.locate, hk]
        exact hl
    · rintro ⟨e, b, he, hq, hl⟩
      cases he
      cases b with
      | nil =>
        left
        obtain ⟨address, ab, e⟩ := q
        simp only [Element.locate, Option.some.injEq, Prod.mk.injEq] at hl
        simp only [List.append_nil] at hq
        rw [hq, ← hl.1, ← hl.2]
      | cons k b =>
        right
        rw [Element.locate] at hl
        split at hl
        · rename_i t nodes hk
          exact ⟨k, ⟨t, nodes⟩, b, hk, by simpa using hq, hl⟩
        · simp at hl
  | text _ | cdata _ | comment _ | instruction _ _ | reference _ =>
    simp [placesOf, Node.element?]

theorem mem_placesBelow_iff {a : Address} {tags : List Tag} {index : Nat} {nodes : List Node}
    {q : Place} : q ∈ placesBelow a tags index nodes ↔
      ∃ (k : Nat) (e : Element) (b : Address), (items nodes)[k]? = some (.element e.tag e.children)
        ∧ q.address = a ++ (index + k) :: b
        ∧ e.locate tags b = some (q.above, q.element) := by
  cases nodes with
  | nil => simp [placesBelow, items]
  | cons n rest =>
    rw [placesBelow, List.mem_append, mem_placesBelow_iff, items_cons]
    cases hn : n.isCharacters with
    | true => simp [placesOf_of_isCharacters hn]
    | false =>
      rw [mem_placesOf_iff]
      simp only [Bool.false_eq_true, if_false]
      constructor
      · rintro (⟨e, b, he, hq, hl⟩ | ⟨k, e, b, hk, hq, hl⟩)
        · have hn : n = .element e.tag e.children := by
            cases n <;> simp [Node.element?] at he
            rw [← he]
          exact ⟨0, e, b, by rw [hn]; rfl, by simpa using hq, hl⟩
        · exact ⟨k + 1, e, b, hk, by rw [hq]; congr 2; omega, hl⟩
      · rintro ⟨k, e, b, hk, hq, hl⟩
        cases k with
        | zero =>
          left
          simp only [List.getElem?_cons_zero, Option.some.injEq] at hk
          exact ⟨e, b, by rw [hk]; rfl, by simpa using hq, hl⟩
        | succ k => exact .inr ⟨k, e, b, hk, by rw [hq]; congr 2; omega, hl⟩

end

theorem mem_places_iff {root : Element} {q : Place} :
    q ∈ root.places ↔ root.locate [] q.address = some (q.above, q.element) := by
  rw [Element.places, mem_placesOf_iff]
  constructor
  · rintro ⟨e, b, he, hq, hl⟩
    cases he
    rw [hq]
    exact hl
  · intro hl
    exact ⟨root, q.address, rfl, rfl, hl⟩

theorem locate_append {above : List Tag} {e : Element} {a b : Address} :
    e.locate above (a ++ b) = (e.locate above a).bind fun x => x.2.locate x.1 b := by
  induction a generalizing above e with
  | nil => rfl
  | cons i a ih =>
    rw [List.cons_append, Element.locate, Element.locate]
    split
    · exact ih
    · rfl

theorem mem_places_concat_iff {root x : Element} {above : List Tag} {b : Address}
    (h : root.locate [] b = some (above, x)) {k : Nat} {r : Place} (hr : r.address = b ++ [k]) :
    r ∈ root.places ↔ r.above = x.tag :: above
      ∧ (items x.children)[k]? = some r.element.node := by
  rw [mem_places_iff, hr, locate_append, h, Option.bind_some, Element.locate]
  constructor
  · intro hl
    split at hl
    · rename_i tag children hk
      simp only [Element.locate, Option.some.injEq, Prod.mk.injEq] at hl
      exact ⟨hl.1.symm, by rw [hk, ← hl.2]; rfl⟩
    · simp at hl
  · rintro ⟨habove, hk⟩
    rw [hk, habove]
    rfl

theorem length_of_locate {above ab : List Tag} {e x : Element} {a : Address}
    (h : e.locate above a = some (ab, x)) : ab.length = above.length + a.length := by
  induction a generalizing above e with
  | nil =>
    simp only [Element.locate, Option.some.injEq, Prod.mk.injEq] at h
    simp [← h.1]
  | cons i a ih =>
    rw [Element.locate] at h
    split at h
    · rw [ih h]
      simp only [List.length_cons]
      omega
    · simp at h

theorem depth_of_mem_places {root : Element} {q : Place} (h : q ∈ root.places) :
    q.depth = q.address.length := by
  have hl := length_of_locate (mem_places_iff.1 h)
  rw [Place.depth, hl]
  simp

/-- What elements hand down to the elements right inside them holds of all elements, if it holds of
the root. -/
theorem Element.forall_mem_places {P : Element → Prop}
    (hdown : ∀ e, P e → ∀ tag children, .element tag children ∈ e.children → P ⟨tag, children⟩)
    {root : Element} (h : P root) : ∀ q ∈ root.places, P q.element := by
  have hway : ∀ (a : Address) {above ab : List Tag} {e x : Element},
      e.locate above a = some (ab, x) → P e → P x := by
    intro a
    induction a with
    | nil =>
      intro above ab e x hl he
      cases hl
      exact he
    | cons i a ih =>
      intro above ab e x hl he
      rw [locate] at hl
      split at hl
      · rename_i tag children hi
        exact ih hl (hdown e he tag children (List.mem_filter.1 (List.mem_of_getElem? hi)).1)
      · cases hl
  exact fun q hq => hway q.address (mem_places_iff.1 hq) h

theorem root_mem_places (root : Element) : (⟨[], [], root⟩ : Place) ∈ root.places :=
  mem_places_iff.2 rfl

theorem eq_of_mem_places {root : Element} {p q : Place} (hp : p ∈ root.places)
    (hq : q ∈ root.places) (h : p.address = q.address) : p = q := by
  rw [mem_places_iff] at hp hq
  obtain ⟨a, ab, e⟩ := p
  obtain ⟨b, bb, f⟩ := q
  cases h
  rw [hp] at hq
  cases hq
  rfl

theorem mem_below_iff {root : Element} {p q : Place} (hp : p ∈ root.places) :
    q ∈ p.below ↔ q ∈ root.places ∧ p.address <+: q.address ∧ p.address ≠ q.address := by
  have hl := mem_places_iff.1 hp
  have hall : q ∈ placesOf p.address p.above p.element.node ↔
      q ∈ root.places ∧ p.address <+: q.address := by
    rw [mem_placesOf_iff, mem_places_iff]
    constructor
    · rintro ⟨e, b, he, hb, hq⟩
      cases he
      refine ⟨?_, hb ▸ List.prefix_append _ _⟩
      rw [hb, locate_append, hl]
      exact hq
    · rintro ⟨hq, b, hb⟩
      refine ⟨p.element, b, rfl, hb.symm, ?_⟩
      rw [← hb, locate_append, hl] at hq
      exact hq
  have hcons : placesOf p.address p.above p.element.node = p :: p.below := rfl
  rw [hcons, List.mem_cons] at hall
  constructor
  · intro hq
    exact ⟨(hall.1 (.inr hq)).1, prefix_of_mem_below hq⟩
  · rintro ⟨hq, hpre, hne⟩
    rcases hall.2 ⟨hq, hpre⟩ with rfl | h
    · exact absurd rfl hne
    · exact h

end Way

section Ancestors

variable {root e x : Element} {above ab : List Tag} {a : Address} {p q : Place} {t : Tag}

theorem mem_above_of_locate_iff (h : e.locate above a = some (ab, x)) :
    t ∈ ab ↔ t ∈ above ∨ ∃ b c, a = b ++ c ∧ c ≠ []
      ∧ ∃ ab' y, e.locate above b = some (ab', y) ∧ y.tag = t := by
  induction a generalizing e above with
  | nil =>
    cases h
    refine ⟨.inl, ?_⟩
    rintro (ht | ⟨b, c, hbc, hc, -⟩)
    · exact ht
    · exact absurd (List.append_eq_nil_iff.1 hbc.symm).2 hc
  | cons i a ih =>
    rw [Element.locate] at h
    split at h
    · rename_i tag children hi
      have hstep : ∀ b, e.locate above (i :: b)
          = Element.locate (e.tag :: above) ⟨tag, children⟩ b :=
        fun b => by rw [Element.locate, hi]
      rw [ih h, List.mem_cons]
      constructor
      · rintro ((rfl | ht) | ⟨b, c, rfl, hc, hfound⟩)
        · exact .inr ⟨[], i :: a, rfl, by simp, above, e, rfl, rfl⟩
        · exact .inl ht
        · exact .inr ⟨i :: b, c, rfl, hc, by simpa only [hstep] using hfound⟩
      · rintro (ht | ⟨b, c, hbc, hc, ab', y, hfound, rfl⟩)
        · exact .inl (.inr ht)
        · cases b with
          | nil =>
            cases hfound
            exact .inl (.inl rfl)
          | cons j b =>
            cases hbc
            exact .inr ⟨b, c, rfl, hc, ab', y, by simpa only [hstep] using hfound, rfl⟩
    · cases h

theorem mem_above_iff (hp : p ∈ root.places) :
    t ∈ p.above
      ↔ ∃ r ∈ root.places, r.address <+: p.address ∧ r.address ≠ p.address ∧ r.tag = t := by
  rw [mem_above_of_locate_iff (mem_places_iff.1 hp)]
  constructor
  · rintro (ht | ⟨b, c, hbc, hc, ab, y, hy, rfl⟩)
    · cases ht
    · refine ⟨⟨b, ab, y⟩, mem_places_iff.2 hy, ⟨c, hbc.symm⟩, fun he => hc ?_, rfl⟩
      rw [← he] at hbc
      exact List.self_eq_append_right.1 hbc
  · rintro ⟨r, hr, ⟨c, hc⟩, hne, rfl⟩
    refine .inr ⟨r.address, c, hc.symm, fun hnil => hne ?_, r.above, r.element,
      mem_places_iff.1 hr, rfl⟩
    rw [← hc, hnil, List.append_nil]

theorem exists_mem_before_of_mem_above {before after : List Place}
    (h : root.places = before ++ p :: after) (ht : t ∈ p.above) : ∃ r ∈ before, r.tag = t := by
  have hp : p ∈ root.places := by simp [h]
  obtain ⟨r, hr, hunder, hne, rfl⟩ := (mem_above_iff hp).1 ht
  have hlt : r.address < p.address := Address.lt_of_prefix_of_ne hunder hne
  have horder := root.pairwise_places
  rw [h] at hr horder
  rcases List.mem_append.1 hr with hbefore | hafter
  · exact ⟨r, hbefore, rfl⟩
  · rcases List.mem_cons.1 hafter with rfl | hafter
    · exact absurd rfl hne
    · have hgt := (List.pairwise_cons.1 (List.pairwise_append.1 horder).2.1).1 r hafter
      exact absurd (List.lt_trans hlt hgt) (List.lt_irrefl _)

end Ancestors

end TemplateLexer.Markup
