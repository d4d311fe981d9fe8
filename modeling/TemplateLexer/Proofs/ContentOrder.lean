import TemplateLexer.Proofs.PlainNodes
import TemplateLexer.Proofs.StandInNumbers
/-!
When the items of an element are its content in document order. A section that spells a stand-in is
cut at it, and an element with a declaration that gives another number is taken for another child.
Nothing else comes between an element and its items.
-/

set_option autoImplicit false

namespace TemplateLexer

open Markup

namespace Content

/-- The child that an item is. -/
def Item.index? : Item → Option Nat
  | .child index => some index
  | _ => none

/-- The number by which a child is found: the first one among the declarations of an element, or
its index. -/
def foundNumber (index : Nat) : Node → Nat
  | .element tag _ => (tag.declarations.findSome? Declaration.number?).getD index
  | _ => index

def numbersFrom : (fuel : Nat) → List Char → List Nat
  | 0, _ => []
  | _, [] => []
  | fuel + 1, c :: cs =>
    match standIn? (c :: cs) with
    | some (k, rest) => k :: numbersFrom fuel rest
    | none => numbersFrom fuel cs

def numbersIn (cs : List Char) : List Nat := numbersFrom (cs.length + 1) cs

section Numbers

variable {cs rest xs : List Char} {k : Nat} {n : Node} {nodes : List Node}

theorem length_of_standIn? (h : standIn? cs = some (k, rest)) : rest.length < cs.length := by
  obtain ⟨front, hfront, rfl, -⟩ := exists_front_of_standIn? h
  have hpos := List.length_pos_of_ne_nil hfront
  rw [List.length_append]
  omega

theorem numbersFrom_eq {fuel fuel' : Nat} (h : cs.length < fuel) (h' : cs.length < fuel') :
    numbersFrom fuel cs = numbersFrom fuel' cs := by
  induction fuel generalizing cs fuel' with
  | zero => omega
  | succ fuel ih =>
    obtain ⟨fuel', rfl⟩ : ∃ k, fuel' = k + 1 := ⟨fuel' - 1, by omega⟩
    cases cs with
    | nil => rfl
    | cons c cs =>
      rw [List.length_cons] at h h'
      rw [numbersFrom, numbersFrom]
      split
      · rename_i k rest hstand
        have hlen := length_of_standIn? hstand
        rw [List.length_cons] at hlen
        exact congrArg (k :: ·) (ih (by omega) (by omega))
      · exact ih (by omega) (by omega)

theorem numbersIn_of_some (h : standIn? cs = some (k, rest)) :
    numbersIn cs = k :: numbersIn rest := by
  have hlen := length_of_standIn? h
  cases cs with
  | nil => simp at hlen
  | cons c cs =>
    rw [numbersIn, numbersFrom, h]
    exact congrArg (k :: ·) (numbersFrom_eq hlen (Nat.lt_succ_self _))

theorem numbersIn_of_none {c : Char} (h : standIn? (c :: cs) = none) :
    numbersIn (c :: cs) = numbersIn cs := by
  rw [numbersIn, numbersFrom, h]
  rfl

theorem numbersIn_silent (hxs : Silent xs) (rest : List Char) :
    numbersIn (xs ++ rest) = numbersIn rest := by
  induction xs with
  | nil => rfl
  | cons c xs ih =>
    have hnone : standIn? (c :: (xs ++ rest)) = none := hxs.1 rest
    rw [List.cons_append, numbersIn_of_none hnone, ih hxs.2]

theorem numbersIn_stop (cs rest : List Char) :
    numbersIn (cs ++ (sectionStop ++ rest)) = numbersIn cs ++ numbersIn rest := by
  induction hlen : cs.length using Nat.strong_induction_on generalizing cs with
  | _ size ih =>
    cases cs with
    | nil =>
      have hstop : Silent sectionStop := silent_of_plain (by simp [sectionStop])
      rw [List.nil_append, numbersIn_silent hstop]
      rfl
    | cons c cs =>
      rw [List.length_cons] at hlen
      cases hstand : standIn? (c :: cs) with
      | none =>
        have hnone := standIn?_append_stop hstand rest
        rw [List.cons_append] at hnone ⊢
        rw [numbersIn_of_none hnone, numbersIn_of_none hstand, ih cs.length (by omega) cs rfl]
      | some found =>
        obtain ⟨k, after⟩ := found
        have hafter := length_of_standIn? hstand
        rw [List.length_cons] at hafter
        obtain ⟨front, -, hfront, hmore⟩ := exists_front_of_standIn? hstand
        rw [numbersIn_of_some hstand, hfront, List.append_assoc, numbersIn_of_some (hmore _),
          ih after.length (by omega) after rfl, List.cons_append]

theorem numbersIn_section (s : String) (rest : List Char) :
    numbersIn (printCdata s ++ rest) = numbersIn s.toList ++ numbersIn rest := by
  rw [printCdata_eq, List.append_assoc, numbersIn_silent silent_sectionStart, List.append_assoc,
    numbersIn_stop]

theorem numbersIn_eq_nil_iff : numbersIn cs = [] ↔ holdsStandIn cs = false := by
  induction cs with
  | nil => exact ⟨fun _ => rfl, fun _ => rfl⟩
  | cons c cs ih =>
    rw [holdsStandIn]
    cases hstand : standIn? (c :: cs) with
    | none => simp [numbersIn_of_none hstand, ih]
    | some found => simp [numbersIn_of_some hstand]

end Numbers

/-- The numbers that are found in nodes: those that sections spell, and those of children. -/
def foundNumbers : (index : Nat) → List Node → List Nat
  | _, [] => []
  | index, .text _ :: rest => foundNumbers index rest
  | index, .cdata s :: rest => numbersIn s.toList ++ foundNumbers index rest
  | index, n :: rest => foundNumber index n :: foundNumbers (index + 1) rest

section Found

variable {index fuel : Nat} {done cs : List Char} {n : Node} {nodes : List Node}

theorem indexes_plainItem (done : List Char) : (plainItem done).filterMap Item.index? = [] := by
  rw [plainItem]
  split
  · rfl
  · split <;> rfl

theorem indexes_chunks (fuel : Nat) (done cs : List Char) :
    (chunks fuel done cs).filterMap Item.index? = [] := by
  induction fuel generalizing done cs with
  | zero => exact indexes_plainItem done
  | succ fuel ih =>
    cases cs with
    | nil => exact indexes_plainItem done
    | cons c cs =>
      rw [chunks]
      split
      · rw [List.filterMap_append, indexes_plainItem, List.filterMap_cons, ih]
        rfl
      · exact ih _ _

theorem indexes_itemsFrom (hfuel : cs.length < fuel) (done : List Char) :
    (itemsFrom fuel done cs).filterMap Item.index? = numbersIn cs := by
  induction fuel generalizing done cs with
  | zero => omega
  | succ fuel ih =>
    cases cs with
    | nil => exact indexes_chunks _ _ _
    | cons c cs =>
      rw [List.length_cons] at hfuel
      rw [itemsFrom]
      split
      · rename_i k rest hstand
        have hlen := length_of_standIn? hstand
        rw [List.length_cons] at hlen
        rw [List.filterMap_append, chunksOf, indexes_chunks, List.filterMap_cons, ih (by omega),
          numbersIn_of_some hstand]
        rfl
      · rename_i hstand
        rw [ih (by omega), numbersIn_of_none hstand]

theorem standInNumber_eq (hn : n.isCharacters = false) (hplain : n.IsPlain) (index : Nat) :
    standInNumber index n = foundNumber index n := by
  cases n with
  | element tag children => exact standInNumber_element index hplain children
  | comment _ | instruction _ _ | reference _ => exact standInNumber_remark rfl rfl
  | text _ | cdata _ => cases hn

theorem foundNumbers_child (hn : n.isCharacters = false) (index : Nat) :
    foundNumbers index (n :: nodes)
      = foundNumber index n :: foundNumbers (index + 1) nodes := by
  cases n with
  | text _ | cdata _ => cases hn
  | element _ _ | comment _ | instruction _ _ | reference _ => rfl

theorem numbersIn_printWithStandIns (hplain : ∀ m ∈ nodes, m.IsPlain) (index : Nat) :
    numbersIn (printWithStandIns index nodes) = foundNumbers index nodes := by
  induction nodes generalizing index with
  | nil => rfl
  | cons n nodes ih =>
    obtain ⟨hn, hnodes⟩ := List.forall_mem_cons.1 hplain
    rw [printWithStandIns]
    cases hkind : n.isCharacters with
    | true =>
      rw [if_pos rfl]
      cases n with
      | text s => rw [Node.print, numbersIn_silent (silent_escapeText s), ih hnodes, foundNumbers]
      | cdata s => rw [Node.print, numbersIn_section, ih hnodes, foundNumbers]
      | element _ _ | comment _ | instruction _ _ | reference _ => cases hkind
    | false =>
      rw [if_neg Bool.false_ne_true, numbersIn_of_some (standIn?_printStandIn hkind hn _),
        standInNumber_eq hkind hn, ih hnodes, foundNumbers_child hkind]

/-- The children among the items of an element are those that its sections spell and those that its
children are found as. -/
theorem indexes_items {e : Element} (hplain : ∀ n ∈ e.children, n.IsPlain) :
    (items e).filterMap Item.index? = foundNumbers 0 e.children := by
  rw [items, indexes_itemsFrom (Nat.lt_succ_self _), numbersIn_printWithStandIns hplain]

end Found

/-- The content of nodes in document order: each run of adjacent text with its characters, each
section as markup, and each other node by its index. -/
def itemsInOrder : (index : Nat) → (front : List Char) → List Node → List Item
  | _, front, [] => textItems front
  | index, front, .text s :: rest => itemsInOrder index (front ++ s.toList) rest
  | index, front, .cdata s :: rest =>
    textItems front ++ .cdata (String.ofList (printCdata s)) :: itemsInOrder index [] rest
  | index, front, _ :: rest =>
    textItems front ++ .child index :: itemsInOrder (index + 1) [] rest

section Order

variable {n : Node} {nodes : List Node}

theorem itemsInOrder_child (hn : n.isCharacters = false) (index : Nat) (front : List Char) :
    itemsInOrder index front (n :: nodes)
      = textItems front ++ .child index :: itemsInOrder (index + 1) [] nodes := by
  cases n with
  | text _ | cdata _ => cases hn
  | element _ _ | comment _ | instruction _ _ | reference _ => rfl

theorem indexes_textItems (front : List Char) : (textItems front).filterMap Item.index? = [] := by
  rw [textItems]
  split <;> rfl

theorem indexes_itemsInOrder (index : Nat) (front : List Char) (nodes : List Node) :
    (itemsInOrder index front nodes).filterMap Item.index?
      = List.range' index (Markup.items nodes).length := by
  induction nodes generalizing index front with
  | nil => exact indexes_textItems front
  | cons n nodes ih =>
    rw [items_cons]
    cases hn : n.isCharacters with
    | true =>
      rw [if_pos rfl]
      cases n with
      | text s => exact ih index _
      | cdata s =>
        rw [itemsInOrder, List.filterMap_append, indexes_textItems, List.filterMap_cons]
        exact ih index []
      | element _ _ | comment _ | instruction _ _ | reference _ => cases hn
    | false =>
      rw [if_neg Bool.false_ne_true, itemsInOrder_child hn, List.filterMap_append,
        indexes_textItems, List.filterMap_cons, List.length_cons, List.range'_succ, ← ih _ []]
      rfl

theorem length_le_foundNumbers (index : Nat) (nodes : List Node) :
    (Markup.items nodes).length ≤ (foundNumbers index nodes).length := by
  induction nodes generalizing index with
  | nil => exact Nat.le_refl _
  | cons n nodes ih =>
    have hrest := ih index
    rw [items_cons]
    cases hn : n.isCharacters with
    | true =>
      rw [if_pos rfl]
      cases n with
      | text s => exact hrest
      | cdata s =>
        rw [foundNumbers, List.length_append]
        omega
      | element _ _ | comment _ | instruction _ _ | reference _ => cases hn
    | false =>
      rw [if_neg Bool.false_ne_true, foundNumbers_child hn]
      exact Nat.succ_le_succ (ih (index + 1))

/-- Children are found in order iff no section spells a stand-in and each of them is found by its
index. -/
theorem foundNumbers_eq_iff (index : Nat) (nodes : List Node) :
    foundNumbers index nodes = List.range' index (Markup.items nodes).length ↔
      (∀ m ∈ nodes, isClear m = true)
        ∧ ∀ k m, (Markup.items nodes)[k]? = some m → foundNumber (index + k) m = index + k := by
  induction nodes generalizing index with
  | nil => simp [foundNumbers, Markup.items]
  | cons n nodes ih =>
    rw [items_cons, List.forall_mem_cons]
    cases hn : n.isCharacters with
    | true =>
      rw [if_pos rfl]
      cases n with
      | text s =>
        rw [foundNumbers, ih]
        simp [isClear]
      | cdata s =>
        rw [foundNumbers, isClear, Bool.not_eq_true', ← numbersIn_eq_nil_iff, and_assoc, ← ih]
        constructor
        -- The children alone give as many numbers as are needed, so that the section gives none.
        · intro h
          have hlen := congrArg List.length h
          have hle := length_le_foundNumbers index nodes
          rw [List.length_append, List.length_range'] at hlen
          have hnil : numbersIn s.toList = [] := List.length_eq_zero_iff.1 (by omega)
          exact ⟨hnil, by rwa [hnil] at h⟩
        · rintro ⟨hnil, h⟩
          rw [hnil, List.nil_append, h]
      | element _ _ | comment _ | instruction _ _ | reference _ => cases hn
    | false =>
      have hclear : isClear n = true := by cases n <;> first | rfl | cases hn
      rw [if_neg Bool.false_ne_true, foundNumbers_child hn, List.length_cons, List.range'_succ,
        List.cons_eq_cons, ih, and_iff_right hclear, and_left_comm]
      refine and_congr_right fun _ => ⟨fun h k m hk => ?_, fun h => ⟨?_, fun k m hk => ?_⟩⟩
      · cases k with
        | zero =>
          cases hk
          exact h.1
        | succ k =>
          have hnext := h.2 k m hk
          rwa [Nat.add_right_comm index 1 k, Nat.add_assoc] at hnext
      · exact h 0 n rfl
      · have hnext := h (k + 1) m hk
        rwa [← Nat.add_assoc, Nat.add_right_comm] at hnext

theorem itemsOf_eq_itemsInOrder (hplain : ∀ m ∈ nodes, m.IsPlain) (index : Nat)
    (front : List Char)
    (h : ∀ k m, (Markup.items nodes)[k]? = some m → foundNumber (index + k) m = index + k) :
    itemsOf index front nodes = itemsInOrder index front nodes := by
  induction nodes generalizing index front with
  | nil => rfl
  | cons n nodes ih =>
    obtain ⟨hn, hnodes⟩ := List.forall_mem_cons.1 hplain
    rw [items_cons] at h
    cases hkind : n.isCharacters with
    | true =>
      rw [hkind, if_pos rfl] at h
      cases n with
      | text s => exact ih hnodes index _ h
      | cdata s => rw [itemsOf, itemsInOrder, ih hnodes index [] h]
      | element _ _ | comment _ | instruction _ _ | reference _ => cases hkind
    | false =>
      rw [hkind, if_neg Bool.false_ne_true] at h
      have hrest : ∀ k m, (Markup.items nodes)[k]? = some m →
          foundNumber (index + 1 + k) m = index + 1 + k := by
        intro k m hk
        have hnext := h (k + 1) m hk
        rwa [← Nat.add_assoc, Nat.add_right_comm] at hnext
      rw [itemsOf_child hkind, itemsInOrder_child hkind, standInNumber_eq hkind hn,
        ih hnodes (index + 1) [] hrest]
      exact congrArg (fun k => textItems front ++ .child k :: _) (h 0 n rfl)

end Order

end Content

namespace Source

/-- The items of an element of a document are its content in order iff no section of its own spells
a stand-in and each of its children is found by its index; then each child comes once. In any case
the children among the items are those that sections spell and those that children are found as. -/
theorem items_eq_itemsInOrder_iff {source : Source} {file : Option String} {d : Markup.Document}
    (hload : source.load file = .ok d) {q : Place} (hq : q ∈ d.root.places) :
    (Content.items q.element = Content.itemsInOrder 0 [] q.element.children ↔
      (∀ n ∈ q.element.children, Content.isClear n = true)
        ∧ ∀ k n, (items q.element.children)[k]? = some n → Content.foundNumber k n = k)
    ∧ (Content.itemsInOrder 0 [] q.element.children).filterMap Content.Item.index?
      = List.range (items q.element.children).length
    ∧ (Content.items q.element).filterMap Content.Item.index?
      = Content.foundNumbers 0 q.element.children := by
  have hplain := holdsPlain_of_load hload q hq
  have hfound := Content.indexes_items hplain
  have honce := Content.indexes_itemsInOrder 0 [] q.element.children
  have hnumbers := Content.foundNumbers_eq_iff 0 q.element.children
  simp only [Nat.zero_add] at hnumbers
  refine ⟨⟨fun h => ?_, fun ⟨hclear, hindex⟩ => ?_⟩, ?_, hfound⟩
  · rw [← hnumbers, ← hfound, h, honce]
  · rw [Content.items_eq hplain hclear]
    exact Content.itemsOf_eq_itemsInOrder hplain 0 [] (by simpa using hindex)
  · rw [honce, List.range_eq_range']

/-- The source of a document with sections and children that are found in order. -/
def sourceInOrder : Source := .text "<r>a&amp;<![CDATA[<b>]]><b n=\"7\"/>c<!--d--></r>"

theorem items_eq_itemsInOrder_sample : ∃ d, sourceInOrder.load none = .ok d
    ∧ (⟨[], [], d.root⟩ : Place) ∈ d.root.places
    ∧ (Content.items d.root = Content.itemsInOrder 0 [] d.root.children ↔
      (∀ n ∈ d.root.children, Content.isClear n = true)
        ∧ ∀ k n, (items d.root.children)[k]? = some n → Content.foundNumber k n = k)
    ∧ (Content.itemsInOrder 0 [] d.root.children).filterMap Content.Item.index?
      = List.range (items d.root.children).length
    ∧ (Content.items d.root).filterMap Content.Item.index?
      = Content.foundNumbers 0 d.root.children := by
  have hloads : (sourceInOrder.load none).isOk = true := by decide +kernel
  obtain ⟨d, hload⟩ := Except.exists_of_isOk hloads
  exact ⟨d, hload, root_mem_places d.root,
    items_eq_itemsInOrder_iff hload (root_mem_places d.root)⟩

/-- The source of a document with a declaration of `n` at its only child. -/
def sourceWithNumber : Source := .text "<r><a xmlns:n=\"7\"/></r>"

/-- The source of a document with a section that spells a stand-in. -/
def sourceWithStandIn : Source := .text "<r><![CDATA[<!--_plantilla-child_ 0-->]]></r>"

/-- A child is found by the number of its declaration, where there is no child, and a section that
spells a stand-in is cut at it. -/
theorem items_ne_itemsInOrder :
    ((sourceWithNumber.load none).toOption.map fun d =>
        (Content.items d.root, Content.itemsInOrder 0 [] d.root.children))
      = some ([.child 7], [.child 0])
    ∧ ((sourceWithStandIn.load none).toOption.map fun d =>
        (Content.items d.root, Content.itemsInOrder 0 [] d.root.children))
      = some ([.cdata "<![CDATA[", .child 0, .text "]]>"],
          [.cdata "<![CDATA[<!--_plantilla-child_ 0-->]]>"]) := by
  decide +kernel

end Source

end TemplateLexer
