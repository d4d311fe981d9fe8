import TemplateLexer.Proofs.CutPlaces
import TemplateLexer.Proofs.WholePaths
import TemplateLexer.Selection.Sites

set_option autoImplicit false

namespace TemplateLexer

open Markup

namespace Markup

mutual

def maskNode (policy : Policy) : Node → Node
  | .element tag children =>
    .element tag (if policy.shields tag then [] else maskNodes policy children)
  | n => n

def maskNodes (policy : Policy) : List Node → List Node
  | [] => []
  | n :: rest => maskNode policy n :: maskNodes policy rest

end

/-- An element with nothing inside shielding elements, itself among them. -/
def Element.masked (policy : Policy) (e : Element) : Element :=
  ⟨e.tag, if policy.shields e.tag then [] else maskNodes policy e.children⟩

def Place.masked (policy : Policy) (q : Place) : Place :=
  { q with element := q.element.masked policy }

/-- The places that are not inside a shielding element. -/
def Element.exposed (policy : Policy) (root : Element) : List Place :=
  root.places.filter fun q => !q.above.any policy.shields

variable {policy : Policy} {e x y root : Element} {above ab : List Tag} {a : Address} {q r : Place}

section Nodes

@[simp] theorem isCharacters_maskNode (n : Node) :
    (maskNode policy n).isCharacters = n.isCharacters := by
  cases n <;> simp [maskNode, Node.isCharacters]

theorem maskNode_node (e : Element) : maskNode policy e.node = (e.masked policy).node := by
  rw [Element.node, maskNode]
  rfl

theorem maskNode_of_leaf {n : Node} (h : n.isElement = false) : maskNode policy n = n := by
  cases n with
  | element _ _ => cases h
  | text _ | cdata _ | comment _ | instruction _ _ | reference _ => simp [maskNode]

theorem maskNodes_eq (nodes : List Node) : maskNodes policy nodes = nodes.map (maskNode policy) := by
  induction nodes with
  | nil => rfl
  | cons n rest ih => rw [maskNodes, ih, List.map_cons]

theorem items_maskNodes (nodes : List Node) :
    items (maskNodes policy nodes) = (items nodes).map (maskNode policy) := by
  rw [maskNodes_eq, items, items, List.filter_map]
  refine congrArg _ (List.filter_congr fun n _ => ?_)
  rw [Function.comp, isCharacters_maskNode]

theorem countLike_maskNodes (n : Name) (nodes : List Node) :
    countLike n (maskNodes policy nodes) = countLike n nodes := by
  rw [maskNodes_eq, countLike, countLike, List.countP_map]
  refine List.countP_congr fun m _ => ?_
  cases m <;> simp [maskNode]

theorem around_maskNodes (i : Nat) (nodes : List Node) :
    around i (maskNodes policy nodes) = (around i nodes).map fun r =>
      (maskNodes policy r.1, maskNode policy r.2.1, maskNodes policy r.2.2.1,
        maskNodes policy r.2.2.2) := by
  induction nodes generalizing i with
  | nil => rfl
  | cons n rest ih =>
    rw [maskNodes]
    cases hn : n.isCharacters with
    | true =>
      simp only [around, isCharacters_maskNode, hn, if_true, ih, Option.map_map]
      rfl
    | false =>
      simp only [around, isCharacters_maskNode, hn, Bool.false_eq_true, if_false]
      cases i with
      | zero =>
        have hkind : Node.isCharacters ∘ maskNode policy = Node.isCharacters :=
          funext isCharacters_maskNode
        simp only [Option.map_some, maskNodes_eq, List.takeWhile_map, List.dropWhile_map, hkind]
        rfl
      | succ i =>
        simp only [ih, Option.map_map]
        rfl

end Nodes

section Way

theorem suffix_of_locate (h : e.locate above a = some (ab, x)) : above <:+ ab := by
  induction a generalizing e above with
  | nil =>
    cases h
    exact List.suffix_refl _
  | cons i a ih =>
    rw [Element.locate] at h
    split at h
    · exact (List.suffix_cons _ _).trans (ih h)
    · cases h

theorem shields_of_suffix (hout : ab.any policy.shields = false) (h : above <:+ ab) {t : Tag}
    (ht : t ∈ above) : policy.shields t = false :=
  Bool.eq_false_iff.2 fun hshields => by
    rw [List.any_eq_true.2 ⟨t, h.subset ht, hshields⟩] at hout
    cases hout

theorem locate_masked (h : e.locate above a = some (ab, x))
    (hout : ab.any policy.shields = false) :
    (e.masked policy).locate above a = some (ab, x.masked policy) := by
  induction a generalizing e above with
  | nil =>
    cases h
    rfl
  | cons i a ih =>
    rw [Element.locate] at h
    split at h
    · rename_i tag children hi
      have htag : policy.shields e.tag = false :=
        shields_of_suffix hout (suffix_of_locate h) (List.mem_cons_self ..)
      have hchild : (items (e.masked policy).children)[i]?
          = some ((⟨tag, children⟩ : Element).masked policy).node := by
        rw [Element.masked, htag, if_neg Bool.false_ne_true, items_maskNodes, List.getElem?_map, hi]
        exact congrArg some (maskNode_node ⟨tag, children⟩)
      rw [Element.locate, hchild]
      exact ih h
    · cases h

theorem exists_of_locate_masked (h : (e.masked policy).locate above a = some (ab, y))
    (hout : above.any policy.shields = false) :
    ∃ x, e.locate above a = some (ab, x) ∧ x.masked policy = y
      ∧ ab.any policy.shields = false := by
  induction a generalizing e above with
  | nil =>
    cases h
    exact ⟨e, rfl, rfl, hout⟩
  | cons i a ih =>
    rw [Element.locate] at h
    cases htag : policy.shields e.tag with
    | true =>
      rw [Element.masked, htag] at h
      cases h
    | false =>
      have hchildren : (e.masked policy).children = maskNodes policy e.children := by
        rw [Element.masked, htag, if_neg Bool.false_ne_true]
      rw [hchildren, items_maskNodes, List.getElem?_map] at h
      rw [Element.locate]
      cases hi : (items e.children)[i]? with
      | none =>
        rw [hi] at h
        cases h
      | some n =>
        rw [hi, Option.map_some] at h
        cases n with
        | element tag children =>
          exact ih (e := ⟨tag, children⟩) h (by simp [htag, hout])
        | text _ | cdata _ | comment _ | instruction _ _ | reference _ => cases h

theorem mem_exposed_iff :
    q ∈ root.exposed policy ↔ q ∈ root.places ∧ q.above.any policy.shields = false := by
  rw [Element.exposed, List.mem_filter, Bool.not_eq_true']

theorem root_mem_exposed (policy : Policy) (root : Element) :
    (⟨[], [], root⟩ : Place) ∈ root.exposed policy :=
  mem_exposed_iff.2 ⟨root_mem_places root, rfl⟩

theorem places_masked (policy : Policy) (root : Element) :
    (root.masked policy).places = (root.exposed policy).map (Place.masked policy) := by
  refine eq_of_mem_iff (Element.pairwise_places _) ?_ fun q => ?_
  · exact List.pairwise_map.2 (root.pairwise_places.filter _)
  rw [mem_places_iff, List.mem_map]
  constructor
  · intro h
    obtain ⟨x, hx, hmasked, hout⟩ := exists_of_locate_masked h rfl
    refine ⟨⟨q.address, q.above, x⟩, mem_exposed_iff.2 ⟨mem_places_iff.2 hx, hout⟩, ?_⟩
    rw [Place.masked, hmasked]
  · rintro ⟨r, hr, rfl⟩
    obtain ⟨hmem, hout⟩ := mem_exposed_iff.1 hr
    exact locate_masked (mem_places_iff.1 hmem) hout

end Way

section Paths

theorem steps_masked (h : e.locate above a = some (ab, x))
    (hout : ab.any policy.shields = false) : (e.masked policy).steps a = e.steps a := by
  induction a generalizing e above with
  | nil => rfl
  | cons i a ih =>
    rw [Element.locate] at h
    split at h
    · rename_i tag children hi
      obtain ⟨before, run, after, haround⟩ := exists_around hi
      have htag : policy.shields e.tag = false :=
        shields_of_suffix hout (suffix_of_locate h) (List.mem_cons_self ..)
      have hchildren : (e.masked policy).children = maskNodes policy e.children := by
        rw [Element.masked, htag, if_neg Bool.false_ne_true]
      have hnode : maskNode policy (.element tag children)
          = ((⟨tag, children⟩ : Element).masked policy).node := maskNode_node ⟨tag, children⟩
      have hstep : stepBetween (maskNodes policy before) (maskNodes policy run
          ++ maskNodes policy after) tag.name = stepBetween before (run ++ after) tag.name := by
        rw [stepBetween, stepBetween, countLike_maskNodes, maskNodes_eq run, maskNodes_eq after,
          ← List.map_append, ← maskNodes_eq, countLike_maskNodes]
      rw [Element.steps, Element.steps, hchildren, around_maskNodes, haround, Option.map_some]
      simp only [hnode]
      rw [← ih h, ← hstep]
      rfl
    · cases h

theorem path?_masked (h : q ∈ root.exposed policy) :
    (root.masked policy).path? q.address = root.path? q.address := by
  obtain ⟨hmem, hout⟩ := mem_exposed_iff.1 h
  rw [Element.path?, Element.path?, steps_masked (mem_places_iff.1 hmem) hout]
  rfl

end Paths

section Cuts

variable {ph : Placeholders}

mutual

theorem cutNode_maskNode {a : Address} {above : List Tag} {n : Node}
    (hout : above.any policy.shields = false)
    (hn : ∀ e, n.element? = some e → policy.shields e.tag = false)
    (h : ∀ q ∈ placesOf a above n, q.above.any policy.shields = false → q.address ≠ a →
      policy.shields q.tag = true → (ph q.address).isSome = true) :
    cutNode ph a (maskNode policy n) = cutNode ph a n := by
  cases n with
  | element tag children =>
    have htag : policy.shields tag = false := hn ⟨tag, children⟩ rfl
    rw [maskNode, htag, if_neg Bool.false_ne_true, cutNode, cutNode]
    have htags : (tag :: above).any policy.shields = false := by simp [htag, hout]
    refine congrArg _ (cutNodes_maskNodes htags fun q hq hexposed hshields => ?_)
    refine h q ?_ hexposed ?_ hshields
    · rw [placesOf]
      exact List.mem_cons_of_mem _ hq
    · obtain ⟨j, x, -, hx⟩ := exists_of_mem_placesBelow hq
      rw [hx]
      simp
  | text _ | cdata _ | comment _ | instruction _ _ | reference _ => simp [maskNode]

/-- What gives way is as good as empty: once all shielding elements have given way, nothing is left
of what was inside them. -/
theorem cutNodes_maskNodes {a : Address} {tags : List Tag} {index : Nat} {nodes : List Node}
    (hout : tags.any policy.shields = false)
    (h : ∀ q ∈ placesBelow a tags index nodes, q.above.any policy.shields = false →
      policy.shields q.tag = true → (ph q.address).isSome = true) :
    cutNodes ph a index (maskNodes policy nodes) = cutNodes ph a index nodes := by
  cases nodes with
  | nil => rfl
  | cons n rest =>
    rw [placesBelow] at h
    have hrest : cutNodes ph a (if n.isCharacters then index else index + 1) (maskNodes policy rest)
        = cutNodes ph a (if n.isCharacters then index else index + 1) rest :=
      cutNodes_maskNodes hout fun q hq => h q (List.mem_append_right _ hq)
    rw [maskNodes]
    cases hn : n.isCharacters with
    | true =>
      rw [hn, if_pos rfl] at hrest
      rw [cutNodes_text hn, cutNodes_text (by simp [hn]), hrest,
        maskNode_of_leaf (by cases n <;> simp_all [Node.isCharacters, Node.isElement])]
    | false =>
      rw [hn, if_neg Bool.false_ne_true] at hrest
      have hmasked : (maskNode policy n).isCharacters = false := by simp [hn]
      have hstands : ph.standsFor (a ++ [index]) (maskNode policy n)
          = ph.standsFor (a ++ [index]) n := by
        cases n <;> simp [maskNode, Placeholders.standsFor, Node.isElement]
      cases hs : ph.standsFor (a ++ [index]) n with
      | some x => rw [cutNodes_standing hs, cutNodes_standing (hstands.trans hs), hrest]
      | none =>
        rw [cutNodes_staying hn hs, cutNodes_staying hmasked (hstands.trans hs), hrest]
        refine congrArg (· :: _) (cutNode_maskNode hout (fun x hx => ?_) fun q hq hq' _ => ?_)
        · -- A shielding element would have given way.
          cases n with
          | element tag children =>
            cases hx
            refine Bool.eq_false_iff.2 fun hshields => ?_
            have hsome := h ⟨a ++ [index], tags, ⟨tag, children⟩⟩
              (List.mem_append_left _ (by rw [placesOf]; exact List.mem_cons_self ..)) hout hshields
            have hnone : ph (a ++ [index]) = none := hs
            rw [hnone] at hsome
            cases hsome
          | text _ | cdata _ | comment _ | instruction _ _ | reference _ => cases hx
        · exact h q (List.mem_append_left _ hq) hq'

end

theorem Element.cut_masked (hq : q ∈ root.exposed policy) (htag : policy.shields q.tag = false)
    (h : ∀ r ∈ root.exposed policy, q.address <+: r.address → r.address ≠ q.address →
      policy.shields r.tag = true → (ph r.address).isSome = true) :
    (q.element.masked policy).cut ph q.address = q.element.cut ph q.address := by
  obtain ⟨hmem, hout⟩ := mem_exposed_iff.1 hq
  have hchildren : (q.element.masked policy).children = maskNodes policy q.element.children :=
    if_neg (by rw [← Place.tag, htag]; exact Bool.false_ne_true)
  have htags : q.tags.any policy.shields = false := by
    rw [Place.tags, List.any_cons, ← Place.tag, htag, hout]
    rfl
  rw [cut, cut, hchildren, cutNodes_maskNodes htags fun r hr hexposed hshields => ?_]
  · rfl
  · obtain ⟨hrmem, hpre, hne⟩ := (mem_below_iff hmem).1 hr
    exact h r (mem_exposed_iff.2 ⟨hrmem, hexposed⟩) hpre hne.symm hshields

theorem Element.masked_eq_self (h : ∀ q ∈ root.exposed policy, policy.shields q.tag = false) :
    root.masked policy = root := by
  have hcut : (root.masked policy).cut (fun _ => none) [] = root.cut (fun _ => none) [] :=
    cut_masked (root_mem_exposed policy root) (h _ (root_mem_exposed policy root))
      fun r hr _ _ hshields => by
        rw [h r hr] at hshields
        cases hshields
  rwa [Element.cut_none fun _ => rfl, Element.cut_none fun _ => rfl] at hcut

end Cuts

end Markup

end TemplateLexer
