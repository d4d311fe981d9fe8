import TemplateLexer.Lexing.Work
import TemplateLexer.Proofs.Places

set_option autoImplicit false

namespace TemplateLexer

namespace Markup

def joinFront (nodes : List Node) : List Node :=
  (if (nodes.takeWhile Node.isCharacters).isEmpty then []
    else [.text (runText (nodes.takeWhile Node.isCharacters))])
    ++ nodes.dropWhile Node.isCharacters

def Node.mapElement (f : Element → Element) : Node → Node
  | .element tag children => (f ⟨tag, children⟩).node
  | n => n

namespace Node

@[simp] theorem isCharacters_node (e : Element) : e.node.isCharacters = false := rfl

@[simp] theorem isCharacters_mapElement (f : Element → Element) (n : Node) :
    (n.mapElement f).isCharacters = n.isCharacters := by
  cases n <;> rfl

theorem mapElement_mapElement (f g : Element → Element) (n : Node) :
    (n.mapElement g).mapElement f = n.mapElement (fun e => f (g e)) := by
  cases n <;> rfl

end Node

section Front

theorem joinFront_of_front {nodes : List Node}
    (h : ∀ n ∈ nodes.head?, n.isCharacters = false) : joinFront nodes = nodes := by
  cases nodes with
  | nil => rfl
  | cons n rest =>
    have hn : n.isCharacters = false := h n rfl
    simp [joinFront, hn]

theorem exists_run (nodes : List Node) : ∃ run rest, nodes = run ++ rest
    ∧ (∀ n ∈ run, n.isCharacters = true) ∧ (∀ n ∈ rest.head?, n.isCharacters = false)
    ∧ joinFront nodes = (if run.isEmpty then [] else [.text (runText run)]) ++ rest := by
  refine ⟨nodes.takeWhile Node.isCharacters, nodes.dropWhile Node.isCharacters,
    List.takeWhile_append_dropWhile.symm, List.all_eq_true.1 List.all_takeWhile, fun n hn => ?_,
    rfl⟩
  have hhead := List.head?_dropWhile_not Node.isCharacters nodes
  rw [hn] at hhead
  simpa using hhead

@[simp] theorem items_joinFront (nodes : List Node) : items (joinFront nodes) = items nodes := by
  have hdrop : items (nodes.dropWhile Node.isCharacters) = items nodes := by
    induction nodes with
    | nil => rfl
    | cons n rest ih =>
      cases hn : n.isCharacters with
      | true => rw [List.dropWhile_cons_of_pos hn, ih, items_cons, if_pos hn]
      | false => rw [List.dropWhile_cons_of_neg (by simp [hn])]
  rw [joinFront]
  split
  · exact hdrop
  · rw [List.singleton_append, items_cons]
    exact hdrop

theorem apply_joinFront {f : List Node → List Node} (hnil : f [] = [])
    (hskip : ∀ n rest, n.isCharacters = true → f (n :: rest) = n :: f rest)
    (hfront : ∀ n rest, n.isCharacters = false →
      ∀ x ∈ (f (n :: rest)).head?, x.isCharacters = false) (nodes : List Node) :
    f (joinFront nodes) = joinFront (f nodes) := by
  have hrun : (f nodes).takeWhile Node.isCharacters = nodes.takeWhile Node.isCharacters
      ∧ (f nodes).dropWhile Node.isCharacters = f (nodes.dropWhile Node.isCharacters) := by
    induction nodes with
    | nil => simp [hnil]
    | cons n rest ih =>
      cases hn : n.isCharacters with
      | true => simp [hskip n rest hn, hn, ih.1, ih.2]
      | false =>
        have hf := hfront n rest hn
        rw [List.takeWhile_cons_of_neg (by simp [hn]), List.dropWhile_cons_of_neg (by simp [hn])]
        cases hfx : f (n :: rest) with
        | nil => simp
        | cons x xs =>
          have hx : x.isCharacters = false := hf x (by rw [hfx]; rfl)
          simp [hx]
  rw [joinFront, joinFront, hrun.1, hrun.2]
  split
  · rfl
  · rw [List.singleton_append, List.singleton_append, hskip _ _ rfl]

end Front

section Change

@[simp] theorem modifyChild_nil (f : Node → Node) (i : Nat) : modifyChild f i [] = [] := by
  cases i <;> rfl

theorem modifyChild_text {f : Node → Node} {i : Nat} {n : Node} {rest : List Node}
    (h : n.isCharacters = true) : modifyChild f i (n :: rest) = n :: modifyChild f i rest := by
  cases i <;> simp [modifyChild, h]

theorem modifyChild_zero {f : Node → Node} {n : Node} {rest : List Node}
    (h : n.isCharacters = false) : modifyChild f 0 (n :: rest) = f n :: rest := by
  simp [modifyChild, h]

theorem modifyChild_succ {f : Node → Node} {i : Nat} {n : Node} {rest : List Node}
    (h : n.isCharacters = false) :
    modifyChild f (i + 1) (n :: rest) = n :: modifyChild f i rest := by
  simp [modifyChild, h]

variable {f g : Node → Node}

theorem modifyChild_joinFront (hg : ∀ n, (g n).isCharacters = n.isCharacters) (k : Nat)
    (nodes : List Node) :
    modifyChild g k (joinFront nodes) = joinFront (modifyChild g k nodes) := by
  refine apply_joinFront (modifyChild_nil g k) (fun m l hm => modifyChild_text hm) ?_ _
  intro m l hm x hx
  cases k with
  | zero =>
    rw [modifyChild_zero hm] at hx
    cases hx
    rw [hg, hm]
  | succ k =>
    rw [modifyChild_succ hm] at hx
    cases hx
    exact hm

theorem modifyChild_modifyChild (hg : ∀ n, (g n).isCharacters = n.isCharacters) (i : Nat)
    (nodes : List Node) :
    modifyChild f i (modifyChild g i nodes) = modifyChild (fun n => f (g n)) i nodes := by
  induction nodes generalizing i with
  | nil => simp
  | cons n rest ih =>
    cases hn : n.isCharacters with
    | true => rw [modifyChild_text hn, modifyChild_text hn, modifyChild_text hn, ih]
    | false =>
      cases i with
      | zero => rw [modifyChild_zero hn, modifyChild_zero (by rw [hg, hn]), modifyChild_zero hn]
      | succ i => rw [modifyChild_succ hn, modifyChild_succ hn, modifyChild_succ hn, ih]

theorem getElem?_items_modifyChild (hg : ∀ n, (g n).isCharacters = n.isCharacters) (i : Nat)
    (nodes : List Node) : (items (modifyChild g i nodes))[i]? = (items nodes)[i]?.map g := by
  induction nodes generalizing i with
  | nil => simp [items]
  | cons n rest ih =>
    cases hn : n.isCharacters with
    | true => rw [modifyChild_text hn, items_cons, items_cons, if_pos hn, if_pos hn, ih]
    | false =>
      cases i with
      | zero => rw [modifyChild_zero hn, items_cons, items_cons, hg, hn]; rfl
      | succ i =>
        rw [modifyChild_succ hn, items_cons, items_cons, hn]
        exact ih i

theorem getElem?_items_modifyChild_of_ne (hg : ∀ n, (g n).isCharacters = n.isCharacters)
    {i j : Nat} (h : j ≠ i) (nodes : List Node) :
    (items (modifyChild g i nodes))[j]? = (items nodes)[j]? := by
  induction nodes generalizing i j with
  | nil => simp
  | cons n rest ih =>
    cases hn : n.isCharacters with
    | true => rw [modifyChild_text hn, items_cons, items_cons, if_pos hn, if_pos hn, ih h]
    | false =>
      cases i with
      | zero =>
        obtain ⟨j, rfl⟩ := Nat.exists_eq_succ_of_ne_zero h
        rw [modifyChild_zero hn, items_cons, items_cons, hg, hn]
        rfl
      | succ i =>
        rw [modifyChild_succ hn, items_cons, items_cons, hn]
        cases j with
        | zero => rfl
        | succ j => exact ih (by omega)

theorem modifyChild_id (i : Nat) (nodes : List Node) :
    modifyChild (fun n => n) i nodes = nodes := by
  induction nodes generalizing i with
  | nil => simp
  | cons n rest ih =>
    cases hn : n.isCharacters with
    | true => rw [modifyChild_text hn, ih]
    | false =>
      cases i with
      | zero => rw [modifyChild_zero hn]
      | succ i => rw [modifyChild_succ hn, ih]

theorem modifyChild_congr {i : Nat} {nodes : List Node}
    (h : ∀ n, (items nodes)[i]? = some n → f n = g n) :
    modifyChild f i nodes = modifyChild g i nodes := by
  induction nodes generalizing i with
  | nil => simp
  | cons n rest ih =>
    rw [items_cons] at h
    cases hn : n.isCharacters with
    | true =>
      rw [if_pos hn] at h
      rw [modifyChild_text hn, modifyChild_text hn, ih h]
    | false =>
      simp only [hn, Bool.false_eq_true, if_false] at h
      cases i with
      | zero => rw [modifyChild_zero hn, modifyChild_zero hn, h n rfl]
      | succ i => rw [modifyChild_succ hn, modifyChild_succ hn, ih h]

theorem Element.replaceAt_cons (f : Element → Element) (e : Element) (i : Nat) (a : Address) :
    e.replaceAt f (i :: a)
      = { e with children := modifyChild (Node.mapElement (·.replaceAt f a)) i e.children } :=
  rfl

theorem Element.replaceAt_replaceAt (f g : Element → Element) (e : Element) (a b : Address) :
    (e.replaceAt g (a ++ b)).replaceAt f a = e.replaceAt (fun x => f (x.replaceAt g b)) a := by
  induction a generalizing e with
  | nil => rfl
  | cons i a ih =>
    have hnode (n : Node) :
        ((n.mapElement (·.replaceAt g (a ++ b))).mapElement (·.replaceAt f a))
          = n.mapElement (·.replaceAt (fun x => f (x.replaceAt g b)) a) := by
      rw [Node.mapElement_mapElement]
      cases n with
      | element tag children => rw [Node.mapElement, Node.mapElement, ih]
      | text _ | cdata _ | comment _ | instruction _ _ | reference _ => rfl
    rw [List.cons_append, replaceAt_cons, replaceAt_cons, replaceAt_cons]
    rw [modifyChild_modifyChild (Node.isCharacters_mapElement _)]
    rw [funext hnode]

theorem Element.replaceAt_id (e : Element) (a : Address) : e.replaceAt (fun x => x) a = e := by
  induction a generalizing e with
  | nil => rfl
  | cons i a ih =>
    have hnode : (Node.mapElement fun x => x.replaceAt (fun x => x) a) = fun n => n := by
      funext n
      cases n with
      | element tag children => rw [Node.mapElement, ih, Element.node]
      | text _ | cdata _ | comment _ | instruction _ _ | reference _ => rfl
    rw [replaceAt_cons, hnode, modifyChild_id]

theorem Element.replaceAt_congr {f g : Element → Element} {above ab : List Tag} {e x : Element}
    {a : Address} (hx : e.locate above a = some (ab, x)) (h : f x = g x) :
    e.replaceAt f a = e.replaceAt g a := by
  induction a generalizing e above with
  | nil =>
    cases hx
    exact h
  | cons i a ih =>
    rw [locate] at hx
    split at hx
    · rename_i tag children hi
      rw [replaceAt_cons, replaceAt_cons]
      congr 1
      refine modifyChild_congr fun n hn => ?_
      rw [hi] at hn
      cases hn
      rw [Node.mapElement, Node.mapElement, ih hx]
    · simp at hx

theorem Element.modifyTag_modifyTag (f g : Tag → Tag) (e : Element) (a : Address) :
    (e.modifyTag g a).modifyTag f a = e.modifyTag (fun t => f (g t)) a := by
  have h := replaceAt_replaceAt (fun x => { x with tag := f x.tag })
    (fun x => { x with tag := g x.tag }) e a []
  rw [List.append_nil] at h
  exact h

theorem Element.locate_replaceAt_append (f : Element → Element) (above : List Tag) (e : Element)
    (a b : Address) : (e.replaceAt f (a ++ b)).locate above a
      = (e.locate above a).map fun x => (x.1, x.2.replaceAt f b) := by
  induction a generalizing above e with
  | nil => rfl
  | cons i a ih =>
    rw [List.cons_append, replaceAt_cons, locate, locate]
    rw [getElem?_items_modifyChild (Node.isCharacters_mapElement _)]
    cases hi : (items e.children)[i]? with
    | none => rfl
    | some n =>
      cases n with
      | element tag children => exact ih _ _
      | text _ | cdata _ | comment _ | instruction _ _ | reference _ => rfl

theorem Element.locate_replaceAt (f : Element → Element) (above : List Tag) (e : Element)
    (a : Address) :
    (e.replaceAt f a).locate above a = (e.locate above a).map fun x => (x.1, f x.2) := by
  have h := locate_replaceAt_append f above e a []
  rwa [List.append_nil] at h

end Change

end Markup

namespace Working

open Markup

variable {p : Element}

@[simp] theorem replaced_nil (i : Nat) : replaced p i [] = [] := by
  cases i <;> rfl

theorem replaced_text {i : Nat} {n : Node} {rest : List Node} (h : n.isCharacters = true) :
    replaced p i (n :: rest) = n :: replaced p i rest := by
  cases har : around i rest with
  | none => simp [replaced, around, h, har]
  | some parts => simp [replaced, around, h, har]

theorem replaced_zero {n : Node} {rest : List Node} (h : n.isCharacters = false) :
    replaced p 0 (n :: rest) = p.node :: joinFront rest := by
  simp [replaced, around, h, joinFront]

theorem replaced_succ {i : Nat} {n : Node} {rest : List Node} (h : n.isCharacters = false) :
    replaced p (i + 1) (n :: rest) = n :: replaced p i rest := by
  cases har : around i rest with
  | none => simp [replaced, around, h, har]
  | some parts => simp [replaced, around, h, har]

theorem replaced_joinFront (i : Nat) (nodes : List Node) :
    replaced p i (joinFront nodes) = joinFront (replaced p i nodes) := by
  refine apply_joinFront (replaced_nil i) (fun n rest hn => replaced_text hn) ?_ nodes
  intro n rest hn x hx
  cases i with
  | zero =>
    rw [replaced_zero hn] at hx
    cases hx
    rfl
  | succ i =>
    rw [replaced_succ hn] at hx
    cases hx
    exact hn

theorem replaced_modifyChild {f : Node → Node} (hf : ∀ n, (f n).isCharacters = n.isCharacters)
    (i : Nat) (nodes : List Node) : replaced p i (modifyChild f i nodes) = replaced p i nodes := by
  induction nodes generalizing i with
  | nil => simp
  | cons n rest ih =>
    cases hn : n.isCharacters with
    | true => rw [modifyChild_text hn, replaced_text hn, replaced_text hn, ih]
    | false =>
      cases i with
      | zero => rw [modifyChild_zero hn, replaced_zero (by rw [hf, hn]), replaced_zero hn]
      | succ i => rw [modifyChild_succ hn, replaced_succ hn, replaced_succ hn, ih]

theorem modifyChildren_replaced_replaceAt (f : Element → Element) (e : Element) (a : Address)
    (i : Nat) :
    (e.replaceAt f (a ++ [i])).modifyChildren (replaced p i) a
      = e.modifyChildren (replaced p i) a := by
  rw [Element.modifyChildren, Element.replaceAt_replaceAt, Element.modifyChildren]
  congr 1
  funext x
  rw [Element.replaceAt_cons, replaced_modifyChild (Node.isCharacters_mapElement _)]

end Working

end TemplateLexer
