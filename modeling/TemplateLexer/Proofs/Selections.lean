import TemplateLexer.Proofs.QueryLiterals
import TemplateLexer.Proofs.Sites
/-!
What the queries select. The tests in them are told by the tags around a point, by its namespace and
by its text; the paths by the addresses of places. So each query lists what selectors list.
-/

set_option autoImplicit false

namespace TemplateLexer

open Markup

namespace Query

section Sets

variable {s : Scene} {x y : Point} {selected : Point → Bool} {axis : Axis} {test : NodeTest}

theorem any_select_iff {f : Point → Bool} : (s.select selected).any f = true
    ↔ ∃ x ∈ points s.root, selected x = true ∧ f x = true := by
  simp [Scene.select, List.any_filter]

theorem truthOf_set_iff :
    s.truthOf (.set selected) = true ↔ ∃ x ∈ points s.root, selected x = true := by
  simp [Scene.truthOf, Scene.select]

theorem stepFrom_iff : s.stepFrom selected axis test y = true ↔ test.takes axis y = true
    ∧ ∃ x ∈ points s.root, selected x = true ∧ axis.leads x y = true := by
  rw [Scene.stepFrom, Bool.and_eq_true, any_select_iff]

theorem around_iff : s.around selected y = true
    ↔ ∃ x ∈ points s.root, selected x = true ∧ Axis.descendantOrSelf.leads x y = true :=
  any_select_iff

theorem stepFrom_isSame_iff (hx : x ∈ points s.root) : s.stepFrom x.isSame axis test y = true
    ↔ test.takes axis y = true ∧ axis.leads x y = true := by
  rw [stepFrom_iff]
  refine and_congr_right fun _ => ⟨?_, fun h => ⟨x, hx, isSame_self x, h⟩⟩
  rintro ⟨z, hz, hsame, h⟩
  rwa [eq_of_isSame hx hz hsame]

theorem textOf_isSame (hx : x ∈ points s.root) : s.textOf (.set x.isSame) = s.textAt x := by
  rw [Scene.textOf, head?_select hx (isSame_self x) fun y hy h => (eq_of_isSame hx hy h).symm]
  rfl

end Sets

section Tests

variable {s : Scene} {x : Point} {p : Place} {t : Tag}

/-- The tags around a point. -/
def Point.around : Point → List Tag
  | document => []
  | element p => p.above
  | attr p _ _ | leaf p _ _ => p.tags

theorem mem_around_iff (hx : x ∈ points s.root) : t ∈ x.around
    ↔ ∃ r ∈ s.root.places, (Point.element r).encloses x = true ∧ r.tag = t := by
  have htags : ∀ {p : Place}, p ∈ s.root.places →
      (t ∈ p.tags ↔ ∃ r ∈ s.root.places, r.address <+: p.address ∧ r.tag = t) := by
    intro p hp
    rw [Place.tags, List.mem_cons, mem_above_iff hp]
    constructor
    · rintro (rfl | ⟨r, hr, hunder, -, rfl⟩)
      · exact ⟨p, hp, List.prefix_rfl, rfl⟩
      · exact ⟨r, hr, hunder, rfl⟩
    · rintro ⟨r, hr, hunder, rfl⟩
      by_cases h : r.address = p.address
      · exact .inl (by rw [eq_of_mem_places hr hp h]; rfl)
      · exact .inr ⟨r, hr, hunder, h, rfl⟩
  cases x with
  | document => simp [Point.around, Point.encloses]
  | element p =>
    rw [Point.around, mem_above_iff (element_mem_points_iff.1 hx)]
    simp [Point.encloses, and_assoc]
  | attr p i a =>
    rw [Point.around, htags (attr_mem_points_iff.1 hx).1]
    simp [Point.encloses]
  | leaf p i n =>
    rw [Point.around, htags (leaf_mem_points_iff.1 hx).1]
    simp [Point.encloses]

theorem truthOf_rawExpr (hx : x ∈ points s.root) (uri base : String) :
    s.truthOf ((rawExpr uri base).value s x)
      = !x.around.any fun t => t.name.uri.getD "" == uri && t.name.base == base := by
  have hset : s.truthOf ((Expr.filtered (.first .here .ancestor .any)
      (.binary .and (.binary .equals (.call .namespaceUri []) (literalExpr uri))
        (.binary .equals (.call .localName []) (literalExpr base)))).value s x)
      = x.around.any fun t => t.name.uri.getD "" == uri && t.name.base == base := by
    have htest : ∀ y : Point, s.truthOf ((Expr.binary .and
        (.binary .equals (.call .namespaceUri []) (literalExpr uri))
        (.binary .equals (.call .localName []) (literalExpr base))).value s y)
        = (y.uri == uri && y.base == base) := by
      intro y
      simp only [Expr.value, valuesOf, value_literalExpr, Operator.apply, Function.apply,
        Scene.subject, Option.map_some, Option.getD_some]
      rfl
    rw [Bool.eq_iff_iff, Expr.value, truthOf_set_iff, List.any_eq_true]
    simp only [htest, Bool.and_eq_true]
    constructor
    · rintro ⟨y, hy, hstep, hshields⟩
      obtain ⟨htakes, hencloses⟩ := (stepFrom_isSame_iff hx).1 hstep
      cases y with
      | element r =>
        exact ⟨r.tag, (mem_around_iff hx).2 ⟨r, element_mem_points_iff.1 hy, hencloses, rfl⟩,
          hshields⟩
      | document | attr _ _ _ | leaf _ _ _ => cases htakes
    · rintro ⟨t, ht, hshields⟩
      obtain ⟨r, hr, hencloses, rfl⟩ := (mem_around_iff hx).1 ht
      exact ⟨.element r, element_mem_points_iff.2 hr,
        (stepFrom_isSame_iff hx).2 ⟨rfl, hencloses⟩, hshields⟩
  rw [rawExpr, Expr.value, Function.apply, valuesOf, valuesOf, List.any_cons, List.any_nil,
    Bool.or_false, hset]
  rfl

theorem holdsPart_delimiters (cs : List Char) :
    (holdsPart ['{', '%'] cs || holdsPart ['%', '}'] cs) = hasDelimiter cs := by
  fun_induction hasDelimiter cs with
  | case1 => rfl
  | case2 => simp [holdsPart]
  | case3 c cs hopening hclosing ih =>
    have hneither : ['{', '%'].isPrefixOf (c :: cs) = false
        ∧ ['%', '}'].isPrefixOf (c :: cs) = false := by
      cases cs <;> grind [List.isPrefixOf]
    rw [holdsPart, holdsPart, hneither.1, hneither.2, Bool.false_or, Bool.false_or, ih]
  | case4 => rfl

theorem truthOf_delimiterExpr (hx : x ∈ points s.root) :
    s.truthOf (delimiterExpr.value s x) = hasDelimiter (s.textAt x).toList := by
  have hopening : "\x7b%".toList = ['{', '%'] := by decide
  have hclosing : "%\x7d".toList = ['%', '}'] := by decide
  rw [← holdsPart_delimiters, ← hopening, ← hclosing]
  simp only [delimiterExpr, Expr.value, valuesOf, Function.apply, Operator.apply, Scene.truthOf,
    textOf_isSame hx]
  rfl

end Tests

section Paths

variable {s : Scene} {context x y : Point} {p q : Place} {path : Expr} {axis : Axis}
  {test : NodeTest}

namespace Point

/-- Whether a point is an element for which a test holds, or an attribute for which another does. -/
def passes (f : Place → Bool) (g : Place → Attribute → Bool) : Point → Bool
  | element p => f p
  | attr p _ a => g p a
  | _ => false

end Point

theorem has_union (s : Scene) (context y : Point) (e e' : Expr) :
    ((Expr.binary .union e e').value s context).has y
      = ((e.value s context).has y || (e'.value s context).has y) := rfl

theorem has_filtered (s : Scene) (context y : Point) (e e' : Expr) :
    ((Expr.filtered e e').value s context).has y
      = ((e.value s context).has y && s.truthOf (e'.value s y)) := rfl

theorem truthOf_and (s : Scene) (y : Point) (e e' : Expr) :
    s.truthOf ((Expr.binary .and e e').value s y)
      = (s.truthOf (e.value s y) && s.truthOf (e'.value s y)) := rfl

theorem truthOf_not (s : Scene) (y : Point) (e : Expr) :
    s.truthOf ((Expr.call .not [e]).value s y) = !s.truthOf (e.value s y) := by
  rw [Expr.value, valuesOf, valuesOf, Function.apply, List.any_cons, List.any_nil, Bool.or_false]
  rfl

theorem exists_dropLast (hp : p ∈ s.root.places) (h : p.address ≠ []) :
    ∃ r ∈ s.root.places, r.address = p.address.dropLast := by
  have hlocated := mem_places_iff.1 hp
  rw [← List.dropLast_concat_getLast h, locate_append] at hlocated
  obtain ⟨⟨above, e⟩, hparent, -⟩ := Option.bind_eq_some_iff.1 hlocated
  exact ⟨⟨_, above, e⟩, mem_places_iff.2 hparent, rfl⟩

theorem leads_descendant_iff : Axis.descendant.leads (.element p) (.element q) = true
    ↔ p.address <+: q.address ∧ p.address ≠ q.address := by
  simp [Axis.leads, Point.encloses, Point.isAttribute]

theorem leads_descendantOrSelf_iff : Axis.descendantOrSelf.leads (.element p) (.element q) = true
    ↔ p.address <+: q.address := by
  by_cases h : p.address = q.address <;>
    simp [Axis.leads, Point.encloses, Point.isAttribute, Point.isSame, h]

theorem leads_attributes_iff {i : Nat} {a : Attribute} (hx : x ∈ points s.root)
    (hq : q ∈ s.root.places) : Axis.attributes.leads x (.attr q i a) = true ↔ x = .element q := by
  rw [← isParentOf_attr_iff hx hq (i := i) (t := a)]
  simp [Axis.leads, Point.isAttribute]

theorem leads_child_iff {i : Nat} {n : Node} (hx : x ∈ points s.root) (hq : q ∈ s.root.places) :
    Axis.child.leads x (.leaf q i n) = true ↔ x = .element q := by
  rw [← isParentOf_leaf_iff hx hq (i := i) (n := n)]
  simp [Axis.leads, Point.isAttribute]

theorem leads_parent_attr_iff {i : Nat} {a : Attribute} (hx : x ∈ points s.root)
    (hq : q ∈ s.root.places) : Axis.parent.leads (.attr q i a) x = true ↔ x = .element q :=
  isParentOf_attr_iff hx hq

theorem leads_parent_leaf_iff {i : Nat} {n : Node} (hx : x ∈ points s.root)
    (hq : q ∈ s.root.places) : Axis.parent.leads (.leaf q i n) x = true ↔ x = .element q :=
  isParentOf_leaf_iff hx hq

theorem around_below_iff (hp : p ∈ s.root.places) (hq : q ∈ s.root.places)
    (haxis : axis = .descendant ∨ axis = .descendantOrSelf) :
    s.around (s.stepFrom (Point.element p).isSame axis .any) (.element q) = true
      ↔ axis.leads (.element p) (.element q) = true := by
  have hpoint := element_mem_points_iff.2 hp
  rw [around_iff]
  constructor
  · rintro ⟨z, hz, hstep, hbelow⟩
    obtain ⟨htakes, hleads⟩ := (stepFrom_isSame_iff hpoint).1 hstep
    cases z with
    | element r =>
      rw [leads_descendantOrSelf_iff] at hbelow
      rcases haxis with rfl | rfl
      · rw [leads_descendant_iff] at hleads ⊢
        refine ⟨hleads.1.trans hbelow, fun h => hleads.2 ?_⟩
        exact hleads.1.eq_of_length_le (h ▸ hbelow.length_le)
      · rw [leads_descendantOrSelf_iff] at hleads ⊢
        exact hleads.trans hbelow
    | document | attr _ _ _ | leaf _ _ _ => rcases haxis with rfl | rfl <;> cases htakes
  · intro hleads
    refine ⟨.element q, element_mem_points_iff.2 hq, (stepFrom_isSame_iff hpoint).2 ⟨?_, hleads⟩,
      leads_descendantOrSelf_iff.2 List.prefix_rfl⟩
    rcases haxis with rfl | rfl <;> rfl

theorem has_root (hy : y ∈ points s.root) :
    ((Expr.first .document .child .any).value s context).has y
      = y.passes (fun p => p.address.isEmpty) fun _ _ => false := by
  have hdocument : Point.document ∈ points s.root := mem_points_iff.2 (.inl rfl)
  rw [Bool.eq_iff_iff]
  refine (stepFrom_isSame_iff hdocument).trans ?_
  cases y <;> simp [NodeTest.takes, Axis.leads, Point.isElement, Point.isParentOf,
    Point.isAttribute, Point.passes]

theorem has_elements (hy : y ∈ points s.root) :
    ((Expr.first .anywhere .child .any).value s context).has y
      = y.passes (fun _ => true) fun _ _ => false := by
  rw [Bool.eq_iff_iff]
  refine stepFrom_iff.trans ?_
  cases y with
  | element p =>
    refine iff_of_true ⟨rfl, ?_⟩ rfl
    by_cases hroot : p.address = []
    · exact ⟨.document, mem_points_iff.2 (.inl rfl), rfl, by
        simp [Axis.leads, Point.isParentOf, Point.isAttribute, hroot]⟩
    · obtain ⟨r, hr, haddress⟩ := exists_dropLast (element_mem_points_iff.1 hy) hroot
      exact ⟨.element r, element_mem_points_iff.2 hr, rfl, by
        simp [Axis.leads, Point.isParentOf, Point.isAttribute, hroot, haddress]⟩
  | document | attr _ _ _ | leaf _ _ _ => simp [NodeTest.takes, Point.isElement, Point.passes]

theorem has_attributes (hy : y ∈ points s.root) :
    ((Expr.first .anywhere .attributes .any).value s context).has y
      = y.passes (fun _ => false) fun _ _ => true := by
  rw [Bool.eq_iff_iff]
  refine stepFrom_iff.trans ?_
  cases y with
  | attr q i a =>
    have hq := (attr_mem_points_iff.1 hy).1
    have howner := element_mem_points_iff.2 hq
    exact iff_of_true ⟨rfl, _, howner, rfl, (leads_attributes_iff howner hq).2 rfl⟩ rfl
  | document | element _ | leaf _ _ _ => simp [NodeTest.takes, Point.isAttribute, Point.passes]

theorem has_ownAttributes (hp : p ∈ s.root.places) :
    (TestExprs.ownAttributes.value s (.element p)).has y
      = y.passes (fun _ => false) fun q _ => p.address == q.address := by
  rw [Bool.eq_iff_iff]
  refine (stepFrom_isSame_iff (element_mem_points_iff.2 hp)).trans ?_
  cases y <;> simp [NodeTest.takes, Axis.leads, Point.isParentOf, Point.isAttribute, Point.passes]

theorem has_attributesBelow (hp : p ∈ s.root.places) (hy : y ∈ points s.root) :
    ((Expr.next (.first .here .descendant .any) true .attributes .any).value s (.element p)).has y
      = y.passes (fun _ => false)
        fun q _ => p.address.isPrefixOf q.address && p.address != q.address := by
  rw [Bool.eq_iff_iff]
  refine stepFrom_iff.trans ?_
  cases y with
  | attr q i a =>
    have hq := (attr_mem_points_iff.1 hy).1
    have hbelow := (around_below_iff hp hq (.inl rfl)).trans leads_descendant_iff
    refine Iff.trans ?_ (hbelow.trans (by simp [Point.passes]))
    constructor
    · rintro ⟨-, x, hx, haround, hparent⟩
      obtain rfl := (leads_attributes_iff hx hq).1 hparent
      exact haround
    · intro haround
      have howner := element_mem_points_iff.2 hq
      exact ⟨rfl, _, howner, haround, (leads_attributes_iff howner hq).2 rfl⟩
  | document | element _ | leaf _ _ _ => simp [NodeTest.takes, Point.isAttribute, Point.passes]

theorem has_textsBelow_iff (hp : p ∈ s.root.places) (hy : y ∈ points s.root) :
    ((Expr.next (.first .here .descendantOrSelf .any) true .child .text).value s
        (.element p)).has y = true
      ↔ ∃ q i n, y = .leaf q i n ∧ p.address <+: q.address ∧ n.isCharacters = true := by
  refine stepFrom_iff.trans ?_
  cases y with
  | leaf q i n =>
    have hq := (leaf_mem_points_iff.1 hy).1
    have hbelow := (around_below_iff hp hq (.inr rfl)).trans leads_descendantOrSelf_iff
    constructor
    · rintro ⟨htakes, x, hx, haround, hparent⟩
      obtain rfl := (leads_child_iff hx hq).1 hparent
      exact ⟨q, i, n, rfl, hbelow.1 haround, htakes⟩
    · rintro ⟨_, _, _, ⟨⟩, hunder, hcharacters⟩
      have howner := element_mem_points_iff.2 hq
      exact ⟨hcharacters, _, howner, hbelow.2 hunder, (leads_child_iff howner hq).2 rfl⟩
  | document | element _ | attr _ _ _ => simp [NodeTest.takes, Point.isText]

theorem has_owners {g : Place → Attribute → Bool} (hy : y ∈ points s.root)
    (hpath : ∀ x ∈ points s.root, (path.value s context).has x = x.passes (fun _ => false) g) :
    ((Expr.next path false .parent .any).value s context).has y
      = y.passes (fun p => p.tag.attributes.any (g p)) fun _ _ => false := by
  rw [Bool.eq_iff_iff]
  refine stepFrom_iff.trans ?_
  cases y with
  | element p =>
    have hp := element_mem_points_iff.1 hy
    rw [Point.passes, List.any_eq_true]
    constructor
    · rintro ⟨-, x, hx, hhas, hparent⟩
      have hpasses := (hpath x hx).symm.trans hhas
      cases x with
      | attr q i a =>
        obtain ⟨hq, ha⟩ := attr_mem_points_iff.1 hx
        cases (leads_parent_attr_iff hy hq).1 hparent
        exact ⟨a, List.mem_of_getElem? ha, hpasses⟩
      | document | element _ | leaf _ _ _ => cases hpasses
    · rintro ⟨a, ha, hpasses⟩
      obtain ⟨i, hi⟩ := List.mem_iff_getElem?.1 ha
      have hx : Point.attr p i a ∈ points s.root := attr_mem_points_iff.2 ⟨hp, hi⟩
      exact ⟨rfl, _, hx, (hpath _ hx).trans hpasses, (leads_parent_attr_iff hy hp).2 rfl⟩
  | document | attr _ _ _ | leaf _ _ _ => simp [NodeTest.takes, Point.isElement, Point.passes]

end Paths

end Query

namespace Selector

/-- The document in which queries are read that stand for the selections of a selector. -/
def scene (s : Selector) (root : Element) : Query.Scene := ⟨root, s.expand⟩

def ownsContent (s : Selector) (p q : Place) : Bool :=
  p.address.isPrefixOf q.address && (s.exposed q.tags && hasText q.element)

def ownsAttribute (s : Selector) (p q : Place) (a : Attribute) : Bool :=
  p.address.isPrefixOf q.address
    && ((p.address != q.address || !q.tag.name.isInOrEmpty s.uris)
      && (s.exposed q.tags && s.holdsDelimiter a))

end Selector

namespace Query

section Queries

variable {s : Selector} {root : Element} {context y : Point} {p : Place} {uri base : String}

theorem truthOf_parentHelper {u : String} {us : List String} (huris : s.uris = u :: us) {i : Nat}
    {a : Attribute} (hy : .attr p i a ∈ points root) :
    (s.scene root).truthOf ((anyExpr (.first .here .parent .any) u us).value (s.scene root)
      (.attr p i a)) = p.tag.name.isInOrEmpty s.uris := by
  have hp := (attr_mem_points_iff.1 hy).1
  have hparent : ((s.scene root).select ((s.scene root).stepFrom (Point.attr p i a).isSame .parent
      .any)).head? = some (.element p) := by
    have howner := element_mem_points_iff.2 hp
    have hleads : Axis.parent.leads (.attr p i a) (.element p) = true :=
      (leads_parent_attr_iff (s := s.scene root) howner hp).2 rfl
    exact head?_select howner ((stepFrom_isSame_iff hy).2 ⟨rfl, hleads⟩) fun x hx hstep =>
      (leads_parent_attr_iff hx hp).1 ((stepFrom_isSame_iff hy).1 hstep).2
  have hvalue : (Expr.call .namespaceUri [.first .here .parent .any]).value (s.scene root)
      (.attr p i a) = .text (p.tag.name.uri.getD "") :=
    congrArg (fun x : Option Point => Value.text ((x.map Point.uri).getD "")) hparent
  rw [truthOf_anyExpr hvalue, huris]
  rfl

/-- The helper attributes of an element, as a query selects them. -/
theorem has_helperAttributes {e : Expr} (hp : p ∈ root.places) (hy : y ∈ points root)
    (he : (TestExprs.of s.uris uri base).helperAttributes = some e) :
    (e.value (s.scene root) (.element p)).has y
      = y.passes (fun _ => false)
        fun q a => p.address == q.address && a.name.isInOrEmpty s.uris := by
  rw [TestExprs.helperAttributes, TestExprs.of] at he
  cases huris : s.uris with
  | nil =>
    rw [huris] at he
    cases he
  | cons u us =>
    rw [huris] at he
    cases he
    rw [has_filtered, has_ownAttributes hp]
    simp only [List.tail_cons, truthOf_anyExpr (value_namespaceUri_here (s := s.scene root) hy)]
    cases y <;> rfl

theorem has_elementHelperExpressions (hp : p ∈ root.places) (hy : y ∈ points root) :
    ((TestExprs.of s.uris uri base).elementHelperExpressions.value (s.scene root)
        (.element p)).has y
      = y.passes (fun _ => false) fun q a => p.address == q.address
        && (!a.name.isInOrEmpty s.uris && s.holdsDelimiter a) := by
  have hdelimiter := truthOf_delimiterExpr (s := s.scene root) hy
  rw [TestExprs.elementHelperExpressions, TestExprs.of]
  cases huris : s.uris with
  | nil =>
    simp only [List.head?_nil, Option.map_none]
    rw [has_filtered, has_ownAttributes hp, hdelimiter]
    cases y <;> rfl
  | cons u us =>
    simp only [List.head?_cons, Option.map_some, List.tail_cons]
    rw [has_filtered, has_ownAttributes hp, truthOf_and, truthOf_not, hdelimiter,
      truthOf_anyExpr (value_namespaceUri_here (s := s.scene root) hy)]
    cases y <;> rfl

theorem textAt_leaf {n : Node} (q : Place) (i : Nat) (hn : n.isCharacters = true) :
    (s.scene root).textAt (.leaf q i n) = n.characters := by
  cases n <;> first | rfl | cases hn

section Shielding

variable (huri : s.policy.rawUri = .str uri) (hbase : s.policy.rawBase = .str base)

include huri hbase

theorem truthOf_raw (hy : y ∈ points root) :
    (s.scene root).truthOf ((rawExpr uri base).value (s.scene root) y) = s.exposed y.around := by
  have hshields : s.policy.shields = fun t => t.name.uri.getD "" == uri && t.name.base == base := by
    funext t
    rw [Policy.shields, huri, hbase]
    rfl
  rw [Selector.exposed, hshields]
  exact truthOf_rawExpr hy uri base

theorem truthOf_outside (hy : y ∈ points root) :
    (s.scene root).truthOf ((TestExprs.of s.uris uri base).outside.value (s.scene root) y)
      = (s.exposed y.around && hasDelimiter ((s.scene root).textAt y).toList) := by
  rw [← truthOf_raw huri hbase hy, ← truthOf_delimiterExpr hy]
  rfl

/-- The nodes of a document, as a query selects them. -/
theorem has_nodes (hy : y ∈ points root) :
    ((TestExprs.of s.uris uri base).nodes.value (s.scene root) context).has y
      = y.passes (fun p => p.address.isEmpty || s.isMarked p) fun _ _ => false := by
  rw [TestExprs.nodes, TestExprs.of]
  cases huris : s.uris with
  | nil =>
    have hnone : ∀ q, s.isMarked q = false := fun q => by
      simp [Selector.isMarked, Name.isInOrEmpty, huris]
    refine (has_root hy).trans ?_
    simp only [hnone, Bool.or_false]
  | cons u us =>
    have hhelper : ∀ x ∈ points root, (s.scene root).truthOf
        ((anyExpr .here u us).value (s.scene root) x) = s.uris.contains x.uri := fun x hx =>
      huris ▸ truthOf_anyExpr (value_namespaceUri_here hx)
    have hattributes : ∀ x ∈ points root,
        ((Expr.filtered (.first .anywhere .attributes .any) (anyExpr .here u us)).value
          (s.scene root) context).has x
        = x.passes (fun _ => false) fun _ a => a.name.isInOrEmpty s.uris := by
      intro x hx
      rw [has_filtered, has_attributes hx, hhelper x hx]
      cases x <;> rfl
    simp only [List.head?_cons, Option.map_some, List.tail_cons]
    rw [has_union, has_union, has_root hy, has_filtered, has_elements hy, truthOf_and,
      hhelper y hy, has_filtered, has_owners hy hattributes, truthOf_raw huri hbase hy]
    cases y with
    | element p =>
      have hname : s.uris.contains (Point.element p).uri = p.tag.name.isInOrEmpty s.uris := rfl
      simp only [Point.passes, Point.around, hname, Selector.isMarked, Bool.true_and]
      cases s.exposed p.above <;> simp [Bool.or_assoc]
    | document | attr _ _ _ | leaf _ _ _ => rfl

theorem has_ownExpressions (hp : p ∈ root.places) (hy : y ∈ points root) :
    ((TestExprs.of s.uris uri base).ownExpressions.value (s.scene root) (.element p)).has y
      = y.passes (fun _ => false) fun q a => p.address == q.address
        && (!q.tag.name.isInOrEmpty s.uris && (s.exposed q.tags && s.holdsDelimiter a)) := by
  have hraw := truthOf_raw huri hbase hy
  have hdelimiter := truthOf_delimiterExpr (s := s.scene root) hy
  rw [TestExprs.ownExpressions, TestExprs.outside, TestExprs.of]
  cases huris : s.uris with
  | nil =>
    simp only [List.head?_nil, Option.map_none]
    rw [has_filtered, has_ownAttributes hp, truthOf_and, hraw, hdelimiter]
    cases y <;> rfl
  | cons u us =>
    simp only [List.head?_cons, Option.map_some, List.tail_cons]
    rw [has_filtered, has_ownAttributes hp, truthOf_and, truthOf_and, truthOf_not, hraw, hdelimiter]
    cases y with
    | attr q i a =>
      rw [truthOf_parentHelper huris hy, Bool.and_assoc, huris]
      rfl
    | document | element _ | leaf _ _ _ => rfl

theorem has_textsOutside_iff (hp : p ∈ root.places) (hy : y ∈ points root) :
    ((Expr.filtered (.next (.first .here .descendantOrSelf .any) true .child .text)
        (TestExprs.of s.uris uri base).outside).value (s.scene root) (.element p)).has y = true
      ↔ ∃ q i n, y = .leaf q i n ∧ p.address <+: q.address ∧ n.isCharacters = true
        ∧ s.exposed q.tags = true ∧ hasDelimiter n.characters.toList = true := by
  rw [has_filtered, Bool.and_eq_true, has_textsBelow_iff (s := s.scene root) hp hy,
    truthOf_outside huri hbase hy, Bool.and_eq_true]
  constructor
  · rintro ⟨⟨q, i, n, rfl, hunder, hn⟩, hexposed, hdelimiter⟩
    exact ⟨q, i, n, rfl, hunder, hn, hexposed, textAt_leaf q i hn ▸ hdelimiter⟩
  · rintro ⟨q, i, n, rfl, hunder, hn, hexposed, hdelimiter⟩
    exact ⟨⟨q, i, n, rfl, hunder, hn⟩, hexposed, (textAt_leaf q i hn).symm ▸ hdelimiter⟩

theorem has_textOwners (hp : p ∈ root.places) (hy : y ∈ points root) :
    ((Expr.next (.filtered (.next (.first .here .descendantOrSelf .any) true .child .text)
        (TestExprs.of s.uris uri base).outside) false .parent .any).value (s.scene root)
        (.element p)).has y
      = y.passes (s.ownsContent p) fun _ _ => false := by
  rw [Bool.eq_iff_iff]
  refine stepFrom_iff.trans ?_
  cases y with
  | element q =>
    have hq := element_mem_points_iff.1 hy
    simp only [Point.passes, Selector.ownsContent, Selector.hasText, Bool.and_eq_true,
      List.isPrefixOf_iff_prefix, List.any_eq_true]
    constructor
    · rintro ⟨-, x, hx, hhas, hparent⟩
      obtain ⟨r, i, n, rfl, hunder, hn, hexposed, hdelimiter⟩ :=
        (has_textsOutside_iff huri hbase hp hx).1 hhas
      obtain ⟨hr, hchild, -⟩ := leaf_mem_points_iff.1 hx
      cases (leads_parent_leaf_iff (s := s.scene root) hy hr).1 hparent
      exact ⟨hunder, hexposed, n, List.mem_of_getElem? hchild, hn, hdelimiter⟩
    · rintro ⟨hunder, hexposed, n, hchild, hn, hdelimiter⟩
      obtain ⟨i, hi⟩ := List.mem_iff_getElem?.1 hchild
      have hleaf : n.isElement = false := by cases n <;> first | rfl | cases hn
      have hx : Point.leaf q i n ∈ points root := leaf_mem_points_iff.2 ⟨hq, hi, hleaf⟩
      exact ⟨rfl, _, hx, (has_textsOutside_iff huri hbase hp hx).2
        ⟨q, i, n, rfl, hunder, hn, hexposed, hdelimiter⟩,
        (leads_parent_leaf_iff (s := s.scene root) hy hq).2 rfl⟩
  | document | attr _ _ _ | leaf _ _ _ => simp [NodeTest.takes, Point.isElement, Point.passes]

/-- The sites that a node owns, as a query selects them. -/
theorem has_nodeExpressions (hp : p ∈ root.places) (hy : y ∈ points root) :
    ((TestExprs.of s.uris uri base).nodeExpressions.value (s.scene root) (.element p)).has y
      = y.passes (s.ownsContent p) (s.ownsAttribute p) := by
  rw [TestExprs.nodeExpressions, has_union, has_union, has_filtered, has_attributesBelow hp hy,
    truthOf_outside huri hbase hy, has_ownExpressions huri hbase hp hy,
    has_textOwners huri hbase hp hy]
  cases y with
  | attr q i a =>
    have hdelimiter : hasDelimiter ((s.scene root).textAt (.attr q i a)).toList
        = s.holdsDelimiter a := rfl
    simp only [Point.passes, Point.around, hdelimiter, Bool.or_false, Selector.ownsAttribute]
    by_cases h : p.address = q.address
    · have hself : q.address.isPrefixOf q.address = true :=
        List.isPrefixOf_iff_prefix.2 List.prefix_rfl
      simp [h, hself]
    · have hne : (p.address == q.address) = false := beq_false_of_ne h
      simp [bne, hne]
  | document | element _ | leaf _ _ _ => simp [Point.passes]

end Shielding

end Queries

/-- The element or attribute that a point is, as a site. -/
def Point.site? : Point → Option Site
  | element p => some (.contentOf p)
  | attr p _ a => some (.attributeOf p a)
  | _ => none

/-- Whether a query that is read at a point selects some elements and attributes, each of them once
and in document order. -/
def Scene.Selects (s : Scene) (context : Point) (text : String) (sites : List Site) : Prop :=
  ∃ found, s.answers? context text = some found ∧ found.Sublist (points s.root) ∧ found.Nodup
    ∧ found.map Point.site? = sites.map some

section Lists

variable {s : Scene} {context : Point} {root : Element} {p : Place} {text : String} {e : Expr}
  {f : Place → Bool} {g : Place → Attribute → Bool}

def sitesWhere (f : Place → Bool) (g : Place → Attribute → Bool) (p : Place) : List Site :=
  (if f p then [.contentOf p] else []) ++ (p.tag.attributes.filter (g p)).map (.attributeOf p)

theorem map_filter_sitePoints (p : Place) :
    ((sitePoints p).filter (Point.passes f g)).map Point.site? = (sitesWhere f g p).map some := by
  have hattributes : ((p.tag.attributes.zipIdx.map fun x => Point.attr p x.2 x.1).filter
        (Point.passes f g)).map Point.site?
      = ((p.tag.attributes.filter (g p)).map (Site.attributeOf p)).map some := by
    rw [List.filter_map, List.map_map, List.map_map]
    conv_rhs => rw [← List.zipIdx_map_fst 0 p.tag.attributes, List.filter_map, List.map_map]
    rfl
  rw [sitePoints, List.filter_cons, sitesWhere, List.map_append, ← hattributes]
  have helement : Point.passes f g (.element p) = f p := rfl
  rw [helement]
  cases f p <;> rfl

theorem exists_value_of_isSet (s : Scene) (context : Point) :
    ∀ e : Expr, e.isSet = true → ∃ selected, e.value s context = .set selected
  | .here, _ | .first _ _ _, _ | .next _ _ _ _, _ | .filtered _ _, _ | .binary .union _ _, _ =>
    ⟨_, rfl⟩
  | .group e, h => exists_value_of_isSet s context e h

/-- A query for elements and attributes selects those of each place, one place after the other. -/
theorem selects_of_passes (hread : read? text = some e) (hset : e.isSet = true)
    (hhas : ∀ y ∈ points s.root, (e.value s context).has y = y.passes f g) :
    s.Selects context text (s.root.places.flatMap (sitesWhere f g)) := by
  obtain ⟨selected, hselected⟩ := exists_value_of_isSet s context e hset
  rw [hselected] at hhas
  have hselect : s.select selected = s.select (Point.passes f g) := List.filter_congr hhas
  have hsites : ∀ x : Point, x.passes f g = true → x.isSite = true := by
    intro x hx
    cases x <;> first | rfl | cases hx
  refine ⟨s.select selected, ?_, List.filter_sublist, ?_, ?_⟩
  · rw [Scene.answers?, hread, Option.bind_some, hselected]
  · exact hselect ▸ nodup_select hsites
  · rw [hselect, select_of_isSite hsites, List.map_flatMap, List.map_flatMap]
    exact List.flatMap_congr fun p _ => map_filter_sitePoints p

theorem filter_address (hp : p ∈ root.places) :
    (root.places.filter fun q => p.address == q.address) = [p] := by
  refine eq_of_mem_iff (root.pairwise_places.filter _) (List.pairwise_singleton ..) fun q => ?_
  rw [List.mem_filter, List.mem_singleton, beq_iff_eq]
  constructor
  · rintro ⟨hq, h⟩
    exact (eq_of_mem_places hp hq h).symm
  · rintro rfl
    exact ⟨hp, rfl⟩

theorem filter_prefix (hp : p ∈ root.places) :
    (root.places.filter fun q => p.address.isPrefixOf q.address) = p :: p.below := by
  have hsorted : (p :: p.below).Pairwise fun x y => x.address < y.address :=
    pairwise_placesOf p.address p.above p.element.node
  refine eq_of_mem_iff (root.pairwise_places.filter _) hsorted fun q => ?_
  rw [List.mem_filter, List.mem_cons, mem_below_iff hp, List.isPrefixOf_iff_prefix]
  constructor
  · rintro ⟨hq, hunder⟩
    by_cases h : p.address = q.address
    · exact .inl (eq_of_mem_places hp hq h).symm
    · exact .inr ⟨hq, hunder, h⟩
  · rintro (rfl | ⟨hq, hunder, -⟩)
    · exact ⟨hp, List.prefix_rfl⟩
    · exact ⟨hq, hunder⟩

theorem flatMap_eq_flatMap_filter {sites sites' : Place → List Site} {keep : Place → Bool}
    (h : ∀ q, sites q = if keep q then sites' q else []) :
    root.places.flatMap sites = (root.places.filter keep).flatMap sites' := by
  have hall : (root.places.filter fun _ => true).flatMap sites
      = (root.places.filter keep).flatMap sites' :=
    flatMap_filter_congr fun q _ => h q
  rwa [List.filter_true] at hall

/-- Attributes of one element. -/
theorem flatMap_ownAttributes (hp : p ∈ root.places) (h : Attribute → Bool) :
    root.places.flatMap (sitesWhere (fun _ => false) fun q a => p.address == q.address && h a)
      = (p.tag.attributes.filter h).map (.attributeOf p) := by
  have hsites : ∀ q, sitesWhere (fun _ => false) (fun q a => p.address == q.address && h a) q
      = if p.address == q.address then (q.tag.attributes.filter h).map (.attributeOf q)
        else [] := by
    intro q
    rw [sitesWhere]
    cases p.address == q.address <;> simp
  rw [flatMap_eq_flatMap_filter hsites, filter_address hp, List.flatMap_singleton]

end Lists

section Selectors

variable {s : Selector} {root : Element} {context : Point} {p : Place} {uri base : String}

theorem flatMap_nodeExpressions (hp : p ∈ root.places) :
    root.places.flatMap (sitesWhere (s.ownsContent p) (s.ownsAttribute p))
      = s.nodeExpressions p := by
  have hsites : ∀ q, sitesWhere (s.ownsContent p) (s.ownsAttribute p) q
      = if p.address.isPrefixOf q.address
        then s.sitesAt (p.address != q.address || !q.tag.name.isInOrEmpty s.uris) q else [] := by
    intro q
    rw [sitesWhere, Selector.ownsContent, Selector.sitesAt]
    unfold Selector.ownsAttribute
    cases p.address.isPrefixOf q.address with
    | false => simp
    | true =>
      cases s.exposed q.tags <;>
        cases p.address != q.address || !q.tag.name.isInOrEmpty s.uris <;> simp
  have hbelow : (p.below.flatMap fun q =>
      s.sitesAt (p.address != q.address || !q.tag.name.isInOrEmpty s.uris) q)
      = p.below.flatMap (s.sitesAt true) := by
    refine List.flatMap_congr fun q hq => ?_
    have hne : (p.address != q.address) = true := bne_iff_ne.2 ((mem_below_iff hp).1 hq).2.2
    rw [hne, Bool.true_or]
  rw [flatMap_eq_flatMap_filter hsites, filter_prefix hp, List.flatMap_cons, hbelow,
    bne_self_eq_false, Bool.false_or, Selector.nodeExpressions]

theorem flatMap_nodes : root.places.flatMap
      (sitesWhere (fun p => p.address.isEmpty || s.isMarked p) fun _ _ => false)
    = (s.nodes root).map .contentOf := by
  have hsites : ∀ p, sitesWhere (fun p => p.address.isEmpty || s.isMarked p) (fun _ _ => false) p
      = if p.address.isEmpty || s.isMarked p then [.contentOf p] else [] := by
    intro p
    rw [sitesWhere, List.filter_false, List.map_nil, List.append_nil]
  rw [flatMap_eq_flatMap_filter hsites, ← Selector.nodes, List.map_eq_flatMap]

/-- What the queries for some namespaces select, if the values in them consist of characters that
documents have; no query can be used with others. The one for nodes selects the nodes, wherever it
is read. Read at an element, the others select its helper attributes, the other attributes of it
that hold delimiters, and the sites that it owns. There is no query for helper attributes if nothing
holds helpers. -/
theorem selects_queries (huri : s.policy.rawUri = .str uri) (hbase : s.policy.rawBase = .str base) :
    (∀ values : List String, check (values.map .str) = .ok () ↔ ∀ v ∈ values, IsPlain v)
      ∧ ∃ t, Tests.of (s.uris.map .str) s.policy = .ok t
      ∧ (t.helperAttributes = "" ↔ s.uris = [])
      ∧ ∀ root : Element,
        ((s.uris = [] ∨ ∀ v ∈ uri :: base :: s.uris, IsPlain v) → ∀ context,
          (s.scene root).Selects context t.nodes ((s.nodes root).map .contentOf))
        ∧ ∀ p ∈ root.places,
          ((∀ u ∈ s.uris, IsPlain u) →
            (s.uris ≠ [] → (s.scene root).Selects (.element p) t.helperAttributes
              ((s.helperAttributes p.tag).map (.attributeOf p)))
            ∧ (s.scene root).Selects (.element p) t.elementHelperExpressions
              ((s.elementHelperExpressions p.tag).map (.attributeOf p)))
          ∧ ((∀ v ∈ uri :: base :: s.uris, IsPlain v) →
            (s.scene root).Selects (.element p) t.nodeExpressions (s.nodeExpressions p)) := by
  refine ⟨check_eq_ok_iff, _, tests_of huri hbase s.uris, ?_, fun root => ⟨fun hplain context => ?_,
    fun p hp => ⟨fun hplain => ⟨fun huris => ?_, ?_⟩, fun hplain => ?_⟩⟩⟩
  · cases s.uris <;> simp [Tests.helperAttributes, namespaceTest, anyOf]
  · have hset : (TestExprs.of s.uris uri base).nodes.isSet = true := by
      rw [TestExprs.nodes]
      split <;> rfl
    have hread : read? (Tests.nodes ⟨namespaceTest s.uris ["."], namespaceTest s.uris ["parent::*"],
        rawTest (literal uri) (literal base)⟩) = some (TestExprs.of s.uris uri base).nodes := by
      rcases hplain with hnil | hplain
      · rw [hnil]
        exact read?_nodes rfl fun hsome => absurd rfl hsome
      · have hsay := say_tests hplain
        exact read?_nodes hsay.helper fun _ => hsay.raw
    rw [← flatMap_nodes]
    exact selects_of_passes hread hset fun y hy => has_nodes huri hbase hy
  · obtain ⟨u, us, hcons⟩ := List.exists_cons_of_ne_nil huris
    have hsome : (TestExprs.of s.uris uri base).helperAttributes
        = some (.filtered TestExprs.ownAttributes (anyExpr .here u us)) := by
      rw [hcons]
      rfl
    rw [Selector.helperAttributes, ← flatMap_ownAttributes hp]
    exact selects_of_passes (Eq.trans (read?_helperAttributes (saysIfAny_helper hplain)) hsome) rfl
      fun y hy => has_helperAttributes hp hy hsome
  · have hset : (TestExprs.of s.uris uri base).elementHelperExpressions.isSet = true := by
      rw [TestExprs.elementHelperExpressions]
      split <;> rfl
    rw [Selector.elementHelperExpressions, ← flatMap_ownAttributes hp]
    exact selects_of_passes (read?_elementHelperExpressions (saysIfAny_helper hplain)) hset
      fun y hy => has_elementHelperExpressions hp hy
  · rw [← flatMap_nodeExpressions hp]
    exact selects_of_passes (say_tests hplain).read?_nodeExpressions rfl fun y hy =>
      has_nodeExpressions huri hbase hp hy

/-- A helper that carries one as well, one that is shielded, and a section. -/
def templateOfHelpers : Element :=
  let helper (base : String) : Name := ⟨some "x", some "urn:x", base⟩
  let raw : Name := ⟨some "e", some "http://elixir.mohiva.com", "Raw"⟩
  ⟨⟨.bare "r", [⟨some "x", "urn:x"⟩], [], 1⟩,
    [.element ⟨helper "a", [], [⟨.bare "k", [.text "\x7b%v%\x7d"]⟩, ⟨helper "h", []⟩], 1⟩ [],
      .element ⟨raw, [⟨some "e", "http://elixir.mohiva.com"⟩], [], 1⟩
        [.element ⟨helper "b", [], [], 1⟩ [.text "\x7b%w%\x7d"]],
      .cdata "\x7b%"]⟩

def selectorOfHelpers : Selector := ⟨["'", "urn:x"], .standard, fun _ => ""⟩

theorem selects_queries_sample : ∃ t, Tests.of (["'", "urn:x"].map .str) .standard = .ok t
    ∧ (selectorOfHelpers.scene templateOfHelpers).Selects .document t.nodes
      ((selectorOfHelpers.nodes templateOfHelpers).map .contentOf)
    ∧ (selectorOfHelpers.nodes templateOfHelpers).map (·.address) = [[], [0]]
    ∧ ∀ p ∈ templateOfHelpers.places, p.address = [] →
      (selectorOfHelpers.scene templateOfHelpers).Selects (.element p) t.nodeExpressions
        (selectorOfHelpers.nodeExpressions p)
      ∧ (selectorOfHelpers.nodeExpressions p).map (fun
        | .contentOf q => (q.address, none)
        | .attributeOf q a => (q.address, some a.name.base)) = [([], none), ([0], some "k")] := by
  have hplain : ∀ v ∈ ["http://elixir.mohiva.com", "Raw", "'", "urn:x"], IsPlain v := by
    decide +kernel
  obtain ⟨-, t, ht, -, hall⟩ := selects_queries (s := selectorOfHelpers) rfl rfl
  obtain ⟨hnodes, hplaces⟩ := hall templateOfHelpers
  refine ⟨t, ht, hnodes (.inr hplain) .document, by decide +kernel, fun p hp haddress =>
    ⟨(hplaces p hp).2 hplain, ?_⟩⟩
  obtain rfl := eq_of_mem_places hp (root_mem_places templateOfHelpers) haddress
  decide +kernel

/-- An element without attributes has no helper attributes, but the query for them cannot be used if
a namespace has a character that documents do not have. -/
theorem selects_queries_foreign : ∃ t, Tests.of (["\u0001"].map .str) .standard = .ok t
    ∧ check (["\u0001"].map .str) = .error .badValue
    ∧ ∀ expand, let s : Selector := ⟨["\u0001"], .standard, expand⟩
      let root : Element := ⟨⟨.bare "r", [], [], 1⟩, []⟩
      s.helperAttributes root.tag = []
        ∧ ¬(s.scene root).Selects (.element ⟨[], [], root⟩) t.helperAttributes [] := by
  have hread : read? (Tests.helperAttributes ⟨namespaceTest ["\u0001"] ["."],
      namespaceTest ["\u0001"] ["parent::*"],
      rawTest (literal "http://elixir.mohiva.com") (literal "Raw")⟩) = none := by
    have hmem : '\u0001' ∈ (literal "\u0001").toList := mem_literal (by decide) (by decide)
    have htest : namespaceTest ["\u0001"] ["."] = "(" ++ comparison "." (literal "\u0001") ++ ")" :=
      rfl
    have hsome : (namespaceTest ["\u0001"] ["."]).isEmpty = false := by
      simp [namespaceTest, anyOf]
    refine read?_of_foreign (c := '\u0001') ?_ (by decide)
    unfold Tests.helperAttributes
    rw [if_neg (by simp [hsome]), htest]
    unfold comparison
    simp only [String.toList_append, List.mem_append, hmem, true_or, or_true]
  refine ⟨_, tests_of rfl rfl ["\u0001"], rfl, fun expand => ⟨rfl, ?_⟩⟩
  rintro ⟨found, hfound, -⟩
  rw [Scene.answers?, hread] at hfound
  cases hfound

end Selectors

end Query

end TemplateLexer
