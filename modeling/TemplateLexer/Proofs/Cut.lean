import TemplateLexer.Proofs.Editing

set_option autoImplicit false

namespace TemplateLexer

namespace Markup

/-- The placeholders that stand at addresses. -/
abbrev Placeholders := Address → Option Element

mutual

def cutNode (ph : Placeholders) (a : Address) : Node → Node
  | .element tag children => .element tag (cutNodes ph a 0 children)
  | n => n

def cutNodes (ph : Placeholders) (a : Address) (index : Nat) : List Node → List Node
  | [] => []
  | n :: rest =>
    if n.isElement then
      match ph (a ++ [index]) with
      | some e => e.node :: joinFront (cutNodes ph a (index + 1) rest)
      | none => cutNode ph (a ++ [index]) n :: cutNodes ph a (index + 1) rest
    else n :: cutNodes ph a (if n.isCharacters then index else index + 1) rest

end

def Element.cut (ph : Placeholders) (a : Address) (e : Element) : Element :=
  { e with children := cutNodes ph a 0 e.children }

variable {ph ph' : Placeholders} {a : Address} {index : Nat} {n : Node} {rest : List Node}

@[simp] theorem isCharacters_cutNode : (cutNode ph a n).isCharacters = n.isCharacters := by
  cases n <;> simp [cutNode, Node.isCharacters]

section Children

def Placeholders.standsFor (ph : Placeholders) (a : Address) (n : Node) : Option Element :=
  if n.isElement then ph a else none

theorem Placeholders.of_standsFor {e : Element} (h : ph.standsFor a n = some e) :
    n.isElement = true ∧ ph a = some e := by
  rw [standsFor] at h
  split at h
  · rename_i hn
    exact ⟨hn, h⟩
  · cases h

@[simp] theorem cutNodes_nil : cutNodes ph a index [] = [] := by
  rw [cutNodes]

theorem cutNodes_text (h : n.isCharacters = true) :
    cutNodes ph a index (n :: rest) = n :: cutNodes ph a index rest := by
  cases n <;> simp_all [cutNodes, Node.isCharacters, Node.isElement]

theorem cutNodes_standing {e : Element} (h : ph.standsFor (a ++ [index]) n = some e) :
    cutNodes ph a index (n :: rest) = e.node :: joinFront (cutNodes ph a (index + 1) rest) := by
  cases n with
  | element tag children =>
    have hp : ph (a ++ [index]) = some e := h
    simp [cutNodes, Node.isElement, hp]
  | text _ | cdata _ | comment _ | instruction _ _ | reference _ =>
    simp [Placeholders.standsFor, Node.isElement] at h

theorem cutNodes_staying (hn : n.isCharacters = false)
    (h : ph.standsFor (a ++ [index]) n = none) :
    cutNodes ph a index (n :: rest)
      = cutNode ph (a ++ [index]) n :: cutNodes ph a (index + 1) rest := by
  cases n with
  | element tag children =>
    have hp : ph (a ++ [index]) = none := h
    simp [cutNodes, Node.isElement, hp]
  | comment _ | instruction _ _ | reference _ =>
    simp [cutNodes, cutNode, Node.isElement, Node.isCharacters]
  | text _ | cdata _ => simp [Node.isCharacters] at hn

theorem getElem?_items_cutNodes (ph : Placeholders) (a : Address) (index k : Nat)
    (nodes : List Node) :
    (items (cutNodes ph a index nodes))[k]? = (items nodes)[k]?.map fun n =>
      match ph.standsFor (a ++ [index + k]) n with
      | some e => e.node
      | none => cutNode ph (a ++ [index + k]) n := by
  induction nodes generalizing index k with
  | nil => simp [items]
  | cons n rest ih =>
    cases hn : n.isCharacters with
    | true =>
      rw [cutNodes_text hn, items_cons, items_cons, if_pos hn, if_pos hn, ih]
    | false =>
      cases hs : ph.standsFor (a ++ [index]) n with
      | none =>
        rw [cutNodes_staying hn hs, items_cons, items_cons, isCharacters_cutNode, hn]
        cases k with
        | zero => simp [hs]
        | succ k =>
          simp only [Bool.false_eq_true, if_false, List.getElem?_cons_succ, ih]
          rw [show index + 1 + k = index + (k + 1) by omega]
      | some e =>
        rw [cutNodes_standing hs, items_cons, items_cons, Node.isCharacters_node, hn]
        cases k with
        | zero => simp [hs]
        | succ k =>
          simp only [Bool.false_eq_true, if_false, List.getElem?_cons_succ, items_joinFront, ih]
          rw [show index + 1 + k = index + (k + 1) by omega]

theorem locate_cut {e x : Element} {above ab : List Tag} {base b : Address}
    (h : e.locate above b = some (ab, x))
    (hfree : ∀ c, c ≠ [] → c <+: b → ph (base ++ c) = none) :
    (e.cut ph base).locate above b = some (ab, x.cut ph (base ++ b)) := by
  induction b generalizing e above base with
  | nil =>
    cases h
    rw [List.append_nil]
    rfl
  | cons i b ih =>
    rw [Element.locate] at h
    split at h
    · rename_i tag children hi
      have hnone : ph (base ++ [i]) = none :=
        hfree [i] (List.cons_ne_nil _ _) (List.cons_prefix_cons.2 ⟨rfl, List.nil_prefix⟩)
      have hitem : (items (e.cut ph base).children)[i]?
          = some (.element tag (cutNodes ph (base ++ [i]) 0 children)) := by
        rw [Element.cut, getElem?_items_cutNodes, hi]
        simp [Placeholders.standsFor, hnone, cutNode]
      rw [Element.locate, hitem]
      have hfree' : ∀ c, c ≠ [] → c <+: b → ph (base ++ [i] ++ c) = none := by
        intro c hc hpre
        rw [List.append_assoc]
        exact hfree (i :: c) (List.cons_ne_nil _ _) (List.cons_prefix_cons.2 ⟨rfl, hpre⟩)
      have hrest := ih h hfree'
      rw [List.append_assoc] at hrest
      exact hrest
    · simp at h

end Children

section Whole

mutual

theorem cutNode_none (h : ∀ b, ph b = none) (a : Address) (n : Node) : cutNode ph a n = n := by
  cases n with
  | element tag children => rw [cutNode, cutNodes_none h a 0 children]
  | text _ | cdata _ | comment _ | instruction _ _ | reference _ => simp [cutNode]

theorem cutNodes_none (h : ∀ b, ph b = none) (a : Address) (index : Nat) (nodes : List Node) :
    cutNodes ph a index nodes = nodes := by
  cases nodes with
  | nil => simp
  | cons n rest =>
    rw [cutNodes, h, cutNode_none h, cutNodes_none h a _ rest, cutNodes_none h a _ rest]
    split <;> rfl

end

theorem Element.cut_none (h : ∀ b, ph b = none) (a : Address) (e : Element) : e.cut ph a = e := by
  rw [cut, cutNodes_none h]

end Whole

section Congruence

mutual

theorem cutNode_congr {a : Address} (h : ∀ b, a <+: b → b ≠ a → ph b = ph' b) (n : Node) :
    cutNode ph a n = cutNode ph' a n := by
  cases n with
  | element tag children => rw [cutNode, cutNode, cutNodes_congr h 0 children]
  | text _ | cdata _ | comment _ | instruction _ _ | reference _ => simp [cutNode]

theorem cutNodes_congr {a : Address} (h : ∀ b, a <+: b → b ≠ a → ph b = ph' b) (index : Nat)
    (nodes : List Node) : cutNodes ph a index nodes = cutNodes ph' a index nodes := by
  cases nodes with
  | nil => simp
  | cons n rest =>
    have hchild : ph (a ++ [index]) = ph' (a ++ [index]) :=
      h _ (List.prefix_append _ _) (by simp)
    have hinside : ∀ b, a ++ [index] <+: b → b ≠ a ++ [index] → ph b = ph' b := by
      intro b hb _
      refine h b ((List.prefix_append _ _).trans hb) ?_
      rintro rfl
      have hlen := hb.length_le
      simp only [List.length_append, List.length_singleton] at hlen
      omega
    rw [cutNodes, cutNodes, hchild, cutNode_congr hinside n, cutNodes_congr h (index + 1) rest,
      cutNodes_congr h _ rest]

end

theorem cutNodes_congr_from {a : Address} {first : Nat}
    (h : ∀ j x, first ≤ j → ph (a ++ j :: x) = ph' (a ++ j :: x)) (index : Nat)
    (nodes : List Node) (hindex : first ≤ index) :
    cutNodes ph a index nodes = cutNodes ph' a index nodes := by
  induction nodes generalizing index with
  | nil => simp
  | cons n rest ih =>
    have hinside : ∀ b, a ++ [index] <+: b → b ≠ a ++ [index] → ph b = ph' b := by
      rintro b ⟨x, rfl⟩ -
      rw [List.append_assoc]
      exact h index x hindex
    rw [cutNodes, cutNodes, h index [] hindex, cutNode_congr hinside n,
      ih (index + 1) (by omega), ih _ (by split <;> omega)]

theorem Element.cut_congr (h : ∀ b, a <+: b → b ≠ a → ph b = ph' b) (e : Element) :
    e.cut ph a = e.cut ph' a := by
  rw [Element.cut, Element.cut, cutNodes_congr h]

end Congruence

section Change

variable {i j : Nat} (hother : ∀ b, ¬a ++ [i] <+: b → ph' b = ph b)

include hother

theorem cutNodes_of_after (h : i < index) (nodes : List Node) :
    cutNodes ph a index nodes = cutNodes ph' a index nodes :=
  cutNodes_congr_from (fun _ _ hj => (hother _ (Address.not_concat_prefix (by omega))).symm) index
    nodes (Nat.le_refl _)

theorem cutNode_of_ne (h : i ≠ j) (n : Node) :
    cutNode ph (a ++ [j]) n = cutNode ph' (a ++ [j]) n := by
  refine cutNode_congr (fun b hb _ => (hother b ?_).symm) n
  obtain ⟨x, rfl⟩ := hb
  rw [List.append_assoc]
  exact Address.not_concat_prefix h

theorem standsFor_of_ne (h : i ≠ j) (n : Node) :
    ph'.standsFor (a ++ [j]) n = ph.standsFor (a ++ [j]) n := by
  rw [Placeholders.standsFor, Placeholders.standsFor, hother _ (Address.not_concat_prefix h)]

end Change

section Standing

/-- What changes one child, counted from the first, and passes everything before it by. -/
structure IsChildEdit (f : Nat → List Node → List Node) : Prop where
  nil : ∀ k, f k [] = []
  text : ∀ {k : Nat} {n : Node} {rest : List Node}, n.isCharacters = true →
    f k (n :: rest) = n :: f k rest
  child : ∀ {k : Nat} {n : Node} {rest : List Node}, n.isCharacters = false →
    f (k + 1) (n :: rest) = n :: f k rest
  joined : ∀ (k : Nat) (nodes : List Node), f k (joinFront nodes) = joinFront (f k nodes)

theorem IsChildEdit.cutNodes_eq {f : Nat → List Node → List Node} (hf : IsChildEdit f) {k : Nat}
    (nodes : List Node)
    (hk : ∀ n rest, (items nodes)[k]? = some n → n.isCharacters = false →
      f 0 (cutNodes ph a (index + k) (n :: rest)) = cutNodes ph' a (index + k) (n :: rest))
    (hother : ∀ b, ¬a ++ [index + k] <+: b → ph' b = ph b) :
    f k (cutNodes ph a index nodes) = cutNodes ph' a index nodes := by
  induction nodes generalizing index k with
  | nil => rw [cutNodes_nil, cutNodes_nil, hf.nil]
  | cons n rest ih =>
    rw [items_cons] at hk
    cases hn : n.isCharacters with
    | true =>
      rw [if_pos hn] at hk
      rw [cutNodes_text hn, cutNodes_text hn, hf.text hn, ih hk hother]
    | false =>
      simp only [hn, Bool.false_eq_true, if_false] at hk
      cases k with
      | zero => exact hk n rest rfl hn
      | succ k =>
        have hshift : index + 1 + k = index + (k + 1) := by omega
        have hne : index + (k + 1) ≠ index := by omega
        have hsame := standsFor_of_ne hother hne n
        have hrest := ih (by rw [hshift]; exact hk) (by rw [hshift]; exact hother)
        cases hs : ph.standsFor (a ++ [index]) n with
        | none =>
          rw [cutNodes_staying hn hs, cutNodes_staying hn (hsame.trans hs),
            hf.child (by simpa using hn), hrest, cutNode_of_ne hother hne]
        | some e =>
          rw [cutNodes_standing hs, cutNodes_standing (hsame.trans hs),
            hf.child (Node.isCharacters_node e), hf.joined, hrest]

/-- Nodes in which one more element has given way. The placeholder takes its place, and the text
after it is joined. -/
theorem replaced_cutNodes {e : Element} {k : Nat} (nodes : List Node)
    (hnew : ph' (a ++ [index + k]) = some e)
    (hold : ph (a ++ [index + k]) = none)
    (hother : ∀ b, b ≠ a ++ [index + k] → ph' b = ph b)
    (hk : ∀ n, (items nodes)[k]? = some n → n.isElement = true) :
    Working.replaced e k (cutNodes ph a index nodes) = cutNodes ph' a index nodes := by
  have hedit : IsChildEdit (Working.replaced e) :=
    ⟨Working.replaced_nil, Working.replaced_text, Working.replaced_succ, Working.replaced_joinFront⟩
  have hapart : ∀ b, ¬a ++ [index + k] <+: b → ph' b = ph b :=
    fun b hb => hother b fun he => hb (he ▸ List.prefix_refl _)
  refine hedit.cutNodes_eq nodes (fun n rest hitem hn => ?_) hapart
  have hel := hk n hitem
  have hs : ph.standsFor (a ++ [index + k]) n = none := by
    rw [Placeholders.standsFor, if_pos hel, hold]
  have hs' : ph'.standsFor (a ++ [index + k]) n = some e := by
    rw [Placeholders.standsFor, if_pos hel, hnew]
  rw [cutNodes_staying hn hs, cutNodes_standing hs', Working.replaced_zero (by simpa using hn),
    cutNodes_of_after hapart (Nat.lt_succ_self _)]

theorem modifyChild_cutNodes {g : Node → Node} {k : Nat} (nodes : List Node)
    (hg : ∀ n, (g n).isCharacters = n.isCharacters)
    (hk : ∀ n, (items nodes)[k]? = some n →
      ph.standsFor (a ++ [index + k]) n = none ∧ ph'.standsFor (a ++ [index + k]) n = none
        ∧ g (cutNode ph (a ++ [index + k]) n) = cutNode ph' (a ++ [index + k]) n)
    (hother : ∀ b, ¬a ++ [index + k] <+: b → ph' b = ph b) :
    modifyChild g k (cutNodes ph a index nodes) = cutNodes ph' a index nodes := by
  have hedit : IsChildEdit (modifyChild g) :=
    ⟨modifyChild_nil g, modifyChild_text, modifyChild_succ, modifyChild_joinFront hg⟩
  refine hedit.cutNodes_eq nodes (fun n rest hitem hn => ?_) hother
  obtain ⟨hs, hs', hnode⟩ := hk n hitem
  rw [cutNodes_staying hn hs, cutNodes_staying hn hs', modifyChild_zero (by simpa using hn), hnode,
    cutNodes_of_after hother (Nat.lt_succ_self _)]

theorem Element.modifyChildren_cut {x e : Element} {above : List Tag} {r : List Tag × Element}
    {base b : Address} {k : Nat} (h : x.locate above (b ++ [k]) = some r)
    (hfree : ∀ c, c ≠ [] → c <+: b ++ [k] → ph (base ++ c) = none)
    (hnew : ph' (base ++ (b ++ [k])) = some e)
    (hother : ∀ d, d ≠ base ++ (b ++ [k]) → ph' d = ph d) :
    (x.cut ph base).modifyChildren (Working.replaced e k) b = x.cut ph' base := by
  induction b generalizing x above base with
  | nil =>
    have hkind : ∀ n, (items x.children)[k]? = some n → n.isElement = true := by
      intro n hn
      rw [List.nil_append, locate, hn] at h
      cases n with
      | element tag children => rfl
      | text _ | cdata _ | comment _ | instruction _ _ | reference _ => simp at h
    have hold : ph (base ++ [0 + k]) = none := by
      rw [Nat.zero_add]
      exact hfree [k] (List.cons_ne_nil _ _) (List.prefix_refl _)
    have hchildren : Working.replaced e k (cutNodes ph base 0 x.children)
        = cutNodes ph' base 0 x.children :=
      replaced_cutNodes x.children (by rw [Nat.zero_add]; exact hnew) hold
        (by rw [Nat.zero_add]; exact hother) hkind
    rw [cut, cut, ← hchildren]
    rfl
  | cons i b ih =>
    rw [List.cons_append, locate] at h
    split at h
    · rename_i tag children hi
      have hnone : ph (base ++ [i]) = none :=
        hfree [i] (List.cons_ne_nil _ _) (List.cons_prefix_cons.2 ⟨rfl, List.nil_prefix⟩)
      have hnone' : ph' (base ++ [i]) = none := by
        rw [hother _ (by simp), hnone]
      have hinner : ((⟨tag, children⟩ : Element).cut ph (base ++ [i])).modifyChildren
          (Working.replaced e k) b = (⟨tag, children⟩ : Element).cut ph' (base ++ [i]) := by
        refine ih h ?_ ?_ ?_
        · intro c hc hpre
          rw [List.append_assoc]
          exact hfree (i :: c) (List.cons_ne_nil _ _) (List.cons_prefix_cons.2 ⟨rfl, hpre⟩)
        · rw [List.append_assoc]
          exact hnew
        · intro d hd
          rw [List.append_assoc] at hd
          exact hother d hd
      have hchildren : modifyChild (Node.mapElement (·.modifyChildren (Working.replaced e k) b)) i
          (cutNodes ph base 0 x.children) = cutNodes ph' base 0 x.children := by
        refine modifyChild_cutNodes x.children (Node.isCharacters_mapElement _) ?_ ?_
        · intro n hn
          rw [hi] at hn
          cases hn
          rw [Nat.zero_add]
          refine ⟨by simp [Placeholders.standsFor, hnone], by simp [Placeholders.standsFor, hnone'],
            ?_⟩
          exact congrArg Element.node hinner
        · intro d hd
          rw [Nat.zero_add] at hd
          refine hother d ?_
          rintro rfl
          exact hd ⟨b ++ [k], by simp⟩
      rw [cut, cut, ← hchildren]
      rfl
    · simp at h

end Standing

end Markup

end TemplateLexer
