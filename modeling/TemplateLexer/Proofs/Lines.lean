import TemplateLexer.Proofs.InnerMarkup
import TemplateLexer.Proofs.Stretches
/-!
The lines of expressions. A piece begins on the line to which what is left of the content before it
leads. Where no more and no less line breaks are left than were written, that is its line in the
document; directives leave none, and elements lose those of the nodes inside them.
-/

set_option autoImplicit false

namespace TemplateLexer

open Markup

namespace Content

/-- The items of nodes some of which give way. What comes right after a child that `makesPlain` is
one text. -/
def shownItems (makesPlain : Nat → Bool) :
    (index : Nat) → (front : List Char) → (plain : Bool) → List Node → List Item
  | _, front, _, [] => textItems front
  | index, front, plain, .text s :: rest =>
    shownItems makesPlain index (front ++ s.toList) plain rest
  | index, front, true, .cdata s :: rest =>
    shownItems makesPlain index (front ++ s.toList) true rest
  | index, front, false, .cdata s :: rest =>
    textItems front ++ .cdata (String.ofList (printCdata s))
      :: shownItems makesPlain index [] false rest
  | index, front, _, _ :: rest =>
    textItems front ++ .child index :: shownItems makesPlain (index + 1) [] (makesPlain index) rest

section Shown

variable {makesPlain : Nat → Bool} {n : Node} {nodes run : List Node}

theorem shownItems_child (hn : n.isCharacters = false) (index : Nat) (front : List Char)
    (plain : Bool) : shownItems makesPlain index front plain (n :: nodes) = textItems front
      ++ .child index :: shownItems makesPlain (index + 1) [] (makesPlain index) nodes := by
  cases n with
  | text _ | cdata _ => cases hn
  | element _ _ | comment _ | instruction _ _ | reference _ => rw [shownItems] <;> simp

theorem shownItems_plain (hn : n.isCharacters = true) (index : Nat) (front : List Char) :
    shownItems makesPlain index front true (n :: nodes)
      = shownItems makesPlain index (front ++ n.characters.toList) true nodes := by
  cases n with
  | text _ | cdata _ => rfl
  | element _ _ | comment _ | instruction _ _ | reference _ => cases hn

theorem shownItems_eq_itemsInOrder (index : Nat) (front : List Char) (nodes : List Node) :
    shownItems (fun _ => false) index front false nodes = itemsInOrder index front nodes := by
  induction nodes generalizing index front with
  | nil => rfl
  | cons n nodes ih =>
    cases hn : n.isCharacters with
    | true =>
      cases n with
      | text s => rw [shownItems, itemsInOrder, ih]
      | cdata s => rw [shownItems, itemsInOrder, ih]
      | element _ _ | comment _ | instruction _ _ | reference _ => cases hn
    | false => rw [shownItems_child hn, itemsInOrder_child hn, ih]

theorem shownItems_of_front (h : ∀ n ∈ nodes.head?, n.isCharacters = false) (index : Nat)
    (front : List Char) (plain : Bool) : shownItems makesPlain index front plain nodes
      = shownItems makesPlain index front false nodes := by
  cases nodes with
  | nil => rfl
  | cons n rest =>
    have hn := h n rfl
    rw [shownItems_child hn, shownItems_child hn]

theorem shownItems_run (hrun : ∀ n ∈ run, n.isCharacters = true) (index : Nat)
    (front : List Char) : shownItems makesPlain index front true (run ++ nodes)
      = shownItems makesPlain index (front ++ (runText run).toList) true nodes := by
  rw [toList_runText]
  induction run generalizing front with
  | nil => rw [List.flatMap_nil, List.append_nil]; rfl
  | cons n run ih =>
    obtain ⟨hn, hrest⟩ := List.forall_mem_cons.1 hrun
    rw [List.cons_append, shownItems_plain hn, ih hrest, List.flatMap_cons, List.append_assoc]

theorem shownItems_joinFront (index : Nat) (front : List Char) :
    shownItems makesPlain index front false (joinFront nodes)
      = shownItems makesPlain index front true nodes := by
  obtain ⟨run, rest, rfl, hrun, hfront, hjoin⟩ := exists_run nodes
  rw [hjoin, shownItems_run hrun, shownItems_of_front hfront]
  split
  · rename_i hnil
    rw [List.isEmpty_iff.1 hnil]
    simp [runText]
  · rfl

theorem shownItems_cutNodes {ph : Placeholders} {a : Address} {index : Nat}
    (h : AreElements ph a index nodes) (front : List Char) (plain : Bool) :
    shownItems (fun _ => false) index front plain (cutNodes ph a index nodes)
      = shownItems (fun k => (ph (a ++ [k])).isSome) index front plain nodes := by
  induction nodes generalizing index front plain with
  | nil => simp [shownItems]
  | cons n rest ih =>
    cases hn : n.isCharacters with
    | true =>
      have hrest := h.of_text hn
      rw [cutNodes_text hn]
      cases n with
      | text s => rw [shownItems, shownItems, ih hrest]
      | cdata s => cases plain <;> rw [shownItems, shownItems, ih hrest]
      | element _ _ | comment _ | instruction _ _ | reference _ => cases hn
    | false =>
      have hrest := h.of_child hn
      rw [shownItems_child hn]
      cases hs : ph.standsFor (a ++ [index]) n with
      | none =>
        rw [cutNodes_staying hn hs, shownItems_child (isCharacters_cutNode.trans hn), ih hrest,
          h.eq_none hn hs]
        rfl
      | some e =>
        rw [cutNodes_standing hs, shownItems_child (Node.isCharacters_node e),
          shownItems_joinFront, ih hrest, (Placeholders.of_standsFor hs).2]
        rfl

end Shown

end Content

namespace Working

variable {p : Pass} {owner : Place} {w w' : Work} {c c' : SiteContent} {left : Nat → String}
  {makesPlain : Nat → Bool} {nodes : List Node} {ss fs : List Stretch}

theorem addItem_alignedText {front : List Char} (h : Aligned c.tokens ss)
    (hfine : Stretch.AreFine fs) (hfront : fs.flatMap Stretch.value = front)
    (hfold : (Content.textItems front).foldlM (addItem p owner) c w = .ok (c', w')) :
    Aligned c'.tokens (ss ++ fs) := by
  rw [Content.textItems] at hfold
  split at hfold
  · rename_i hempty
    obtain ⟨rfl, -⟩ := pure_ok hfold
    rw [List.isEmpty_iff] at hempty
    exact h.append_empty (List.flatMap_eq_nil_iff.1 (hfront.trans hempty))
  · rw [List.foldlM_cons] at hfold
    obtain ⟨next, mid, hitem, hrest⟩ := bind_ok hfold
    obtain ⟨rfl, -⟩ := pure_ok hitem
    obtain ⟨rfl, -⟩ := pure_ok hrest
    exact h.addText hfine (hfront.trans (String.toList_ofList ..).symm)

theorem addItem_alignedChild {index : Nat} {n m : Node} (h : Aligned c.tokens ss)
    (hn : n.isCharacters = false)
    (hitem : (Markup.items owner.element.children)[index]? = some m)
    (hshown : m = n ∨ n.isElement = true ∧ m.isElement = true)
    (hleft : ∀ tag children v, m = .element tag children →
      embedded p owner ⟨tag, children⟩ w = .ok (v, w') → v = left index)
    (hadd : addItem p owner c (.child index) w = .ok (c', w')) :
    Aligned c'.tokens (ss ++ Stretch.ofChild p.directives (left index) n) := by
  obtain ⟨rfl, hadds⟩ := adds_of_addItem hadd
  -- Only an element may be another one than in the document.
  have hself : ∀ k, (Markup.items owner.element.children)[index]? = some k →
      k.isElement = false → n = k := by
    intro k hk he
    obtain rfl := Option.some.inj (hitem.symm.trans hk)
    refine hshown.elim Eq.symm fun hm => ?_
    rw [he] at hm
    cases hm.2
  cases hadds with
  | directive item dropped =>
    rw [hself _ item rfl]
    exact h.append_empty fun s hs => by
      rw [List.mem_singleton.1 hs]
      simpa using dropped
  | comment item kept =>
    rw [hself _ item rfl]
    exact h.addMarkup .expressionComment (by simpa using kept) _
  | @instruction _ target data item =>
    rw [hself _ item rfl]
    have hstarts : ['<'] <+: printInstruction target (if data == some "" then none else data) :=
      ⟨_, rfl⟩
    have hadded := h.addMarkup .expressionInstruction
      (Content.ofList_ne_empty hstarts (List.cons_ne_nil _ _)) (printInstruction target data)
    rwa [String.toList_ofList] at hadded
  | reference item =>
    rw [hself _ item rfl]
    exact h.addText (Stretch.areFine_verbatim _) (by simp [Stretch.flatMap_verbatim])
  | @element _ tag children markup item made =>
    obtain rfl := Option.some.inj (hitem.symm.trans item)
    have helement : n.isElement = true := hshown.elim (fun hm => hm ▸ rfl) And.left
    rw [← hleft tag children markup rfl made]
    cases n with
    | element _ _ => exact h.addMarkup .expressionElement (embedded_ne_empty made) _
    | text _ | cdata _ | comment _ | instruction _ _ | reference _ => cases helement

theorem addItems_aligned {index : Nat} {plain : Bool} {front : List Char}
    (h : Aligned c.tokens ss) (hfine : Stretch.AreFine fs)
    (hfront : fs.flatMap Stretch.value = front)
    (hshown : ∀ k n, (Markup.items nodes)[k]? = some n →
      ∃ m, (Markup.items owner.element.children)[index + k]? = some m
        ∧ (m = n ∨ n.isElement = true ∧ m.isElement = true))
    (hleft : ∀ k tag children v,
      (Markup.items owner.element.children)[k]? = some (.element tag children) →
      embedded p owner ⟨tag, children⟩ w = .ok (v, w) → v = left k)
    (hfold : (Content.shownItems makesPlain index front plain nodes).foldlM (addItem p owner) c w
      = .ok (c', w')) :
    Aligned c'.tokens
      (ss ++ fs ++ Stretch.ofNodes p.directives left makesPlain index plain nodes) := by
  induction nodes generalizing index plain front c ss fs with
  | nil =>
    rw [Stretch.ofNodes, List.append_nil]
    exact addItem_alignedText h hfine hfront hfold
  | cons n nodes ih =>
    rw [items_cons] at hshown
    cases hn : n.isCharacters with
    | true =>
      rw [if_pos hn] at hshown
      cases n with
      | text s =>
        rw [Stretch.ofNodes, ← List.append_assoc, List.append_assoc ss]
        exact ih h (hfine.append (Stretch.areFine_ofText s))
          (by rw [List.flatMap_append, hfront, Stretch.value_ofText]) hshown hfold
      | cdata s =>
        cases plain with
        | true =>
          rw [Stretch.ofNodes, ← List.append_assoc, List.append_assoc ss]
          exact ih h (hfine.append (Stretch.areFine_ofSection_plain s))
            (by rw [List.flatMap_append, hfront, Stretch.value_ofSection_plain]) hshown hfold
        | false =>
          rw [Content.shownItems, List.foldlM_append] at hfold
          obtain ⟨next, mid, htext, hlater⟩ := bind_ok hfold
          obtain rfl := (reads_foldlM (reads_addItem p owner) _ _).eq htext
          rw [List.foldlM_cons] at hlater
          obtain ⟨next', mid', hcdata, hothers⟩ := bind_ok hlater
          obtain ⟨rfl, rfl⟩ := pure_ok hcdata
          have hstarts : ['<'] <+: printCdata s := ⟨_, rfl⟩
          have hadded := (addItem_alignedText h hfine hfront htext).addMarkup .expressionCdata
            (Content.ofList_ne_empty hstarts (List.cons_ne_nil _ _)) (printCdata s)
          rw [String.toList_ofList] at hadded
          have hall := ih hadded Stretch.areFine_nil rfl hshown hothers
          rwa [List.append_nil, List.append_assoc (ss ++ fs)] at hall
      | element _ _ | comment _ | instruction _ _ | reference _ => cases hn
    | false =>
      rw [hn, if_neg Bool.false_ne_true] at hshown
      rw [Content.shownItems_child hn, List.foldlM_append] at hfold
      obtain ⟨next, mid, htext, hlater⟩ := bind_ok hfold
      obtain rfl := (reads_foldlM (reads_addItem p owner) _ _).eq htext
      rw [List.foldlM_cons] at hlater
      obtain ⟨next', mid', hchild, hothers⟩ := bind_ok hlater
      obtain rfl := (reads_addItem p owner _ _).eq hchild
      obtain ⟨m, hm, hkind⟩ : ∃ m, (Markup.items owner.element.children)[index]? = some m
          ∧ (m = n ∨ n.isElement = true ∧ m.isElement = true) := hshown 0 n rfl
      have hadded := addItem_alignedChild (addItem_alignedText h hfine hfront htext) hn hm hkind
        (fun tag children v he => hleft index tag children v (he ▸ hm)) hchild
      have hrest : ∀ k n, (Markup.items nodes)[k]? = some n →
          ∃ m, (Markup.items owner.element.children)[index + 1 + k]? = some m
            ∧ (m = n ∨ n.isElement = true ∧ m.isElement = true) := by
        intro k n hk
        rw [Nat.add_assoc, Nat.add_comm 1]
        exact hshown (k + 1) n hk
      have hall := ih hadded Stretch.areFine_nil rfl hrest hothers
      rwa [List.append_nil, List.append_assoc (ss ++ fs), ← Stretch.ofNodes_child hn] at hall

end Working

section Lost

namespace Stretch

/-- How many line breaks of a stretch are not left. -/
def lost (s : Stretch) : Int := (lineBreaks s.markup : Int) - lineBreaks s.value

variable {s : Stretch} {m : Matcher} {left : Nat → String} {makesPlain : Nat → Bool}

theorem lineBreaks_value (ss : List Stretch) :
    (lineBreaks (ss.flatMap value) : Int) + (ss.map lost).sum = lineBreaks (ss.flatMap markup) := by
  induction ss with
  | nil => rfl
  | cons s ss ih =>
    rw [List.flatMap_cons, List.flatMap_cons, lineBreaks_append, lineBreaks_append, List.map_cons,
      List.sum_cons, lost]
    push_cast
    omega

theorem lineBreaks_escapeTextChar (c : Char) : lineBreaks (escapeTextChar c) = lineBreaks [c] := by
  unfold escapeTextChar
  split <;> rfl

theorem lost_of_mem_verbatim {cs : List Char} (hs : s ∈ verbatim cs) : s.lost = 0 := by
  obtain ⟨c, -, rfl⟩ := List.mem_map.1 hs
  exact sub_self _

theorem lost_of_mem_ofText {text : String} (hs : s ∈ ofText text) : s.lost = 0 := by
  obtain ⟨c, -, rfl⟩ := List.mem_map.1 hs
  rw [lost, lineBreaks_escapeTextChar, sub_self]

theorem lost_of_mem_ofSection {plain : Bool} {text : String} (hs : s ∈ ofSection plain text) :
    s.lost = 0 := by
  rw [ofSection] at hs
  split at hs
  · rcases List.mem_cons.1 hs with rfl | hs
    · decide
    · rcases List.mem_append.1 hs with hs | hs
      · exact lost_of_mem_verbatim hs
      · rw [List.mem_singleton.1 hs]
        decide
  · rw [List.mem_singleton.1 hs]
    exact sub_self _

theorem lineBreaks_printInstruction (target : String) (data : Option String) :
    lineBreaks (printInstruction target (if data == some "" then none else data))
      = lineBreaks (printInstruction target data) := by
  split
  · rename_i hempty
    rw [eq_of_beq hempty]
    simp [printInstruction, lineBreaks]
  · rfl

theorem lost_of_mem_ofChild {n : Node} {v : String} (hs : s ∈ ofChild m v n) (hlost : s.lost ≠ 0)
    (hn : n.isCharacters = false) :
    (∃ body, n = .comment body ∧ m.holds body = true ∧ s = ⟨printComment body, []⟩)
      ∨ n.isElement = true ∧ s = ⟨n.print, v.toList⟩ := by
  cases n with
  | text _ | cdata _ => cases hn
  | element tag children =>
    rw [ofChild, List.mem_singleton] at hs
    · exact .inr ⟨rfl, hs⟩
    all_goals simp
  | comment body =>
    rw [ofChild, List.mem_singleton, Content.commentMarkup] at hs
    split at hs
    · rename_i hholds
      exact .inl ⟨body, rfl, hholds, hs⟩
    · rw [hs, lost, String.toList_ofList, sub_self] at hlost
      exact absurd rfl hlost
  | instruction target data =>
    rw [ofChild, List.mem_singleton] at hs
    rw [hs, lost, lineBreaks_printInstruction, sub_self] at hlost
    exact absurd rfl hlost
  | reference name => exact absurd (lost_of_mem_verbatim hs) hlost

theorem lost_of_mem_ofNodes {index : Nat} {plain : Bool} {nodes : List Node}
    (hs : s ∈ ofNodes m left makesPlain index plain nodes) (hlost : s.lost ≠ 0) :
    (∃ body, .comment body ∈ nodes ∧ m.holds body = true ∧ s = ⟨printComment body, []⟩)
      ∨ ∃ k n, (Markup.items nodes)[k]? = some n ∧ n.isElement = true
        ∧ s = ⟨n.print, (left (index + k)).toList⟩ := by
  induction nodes generalizing index plain with
  | nil => cases hs
  | cons n nodes ih =>
    rw [items_cons]
    have hmore : ∀ {P : String → Prop}, (∃ body, .comment body ∈ nodes ∧ P body) →
        ∃ body, .comment body ∈ n :: nodes ∧ P body :=
      fun ⟨body, hbody, h⟩ => ⟨body, List.mem_cons_of_mem _ hbody, h⟩
    cases hn : n.isCharacters with
    | true =>
      rw [if_pos rfl]
      cases n with
      | text text =>
        rw [ofNodes, List.mem_append] at hs
        exact (ih (hs.resolve_left fun hs => hlost (lost_of_mem_ofText hs))).imp_left hmore
      | cdata text =>
        rw [ofNodes, List.mem_append] at hs
        exact (ih (hs.resolve_left fun hs => hlost (lost_of_mem_ofSection hs))).imp_left hmore
      | element _ _ | comment _ | instruction _ _ | reference _ => cases hn
    | false =>
      rw [if_neg Bool.false_ne_true]
      rw [ofNodes_child hn, List.mem_append] at hs
      rcases hs with hs | hs
      · rcases lost_of_mem_ofChild hs hlost hn with ⟨body, rfl, hbody⟩ | ⟨he, hs⟩
        · exact .inl ⟨body, List.mem_cons_self .., hbody⟩
        · exact .inr ⟨0, n, rfl, he, hs⟩
      · refine (ih hs).imp hmore ?_
        rintro ⟨k, n', hk, he, hs⟩
        exact ⟨k + 1, n', hk, he, by rw [hs, Nat.add_assoc, Nat.add_comm 1]⟩

end Stretch

end Lost

section Printed

variable {d : Declaration} {t t' : Tag} {children : List Node} {root : Element} {q : Place}

theorem lineBreaks_printDeclaration (h : d.IsPlain) : lineBreaks d.print = 0 := by
  have hname : '\n' ∉ d.name.toList := by
    rw [Declaration.name]
    split
    · rename_i q hq
      rw [String.toList_append, List.mem_append]
      rintro (hmem | hmem)
      · exact absurd hmem (by decide)
      · exact absurd (List.all_eq_true.1 (h q hq) _ hmem) (by decide)
    · decide
  have hvalue := List.count_eq_zero.1 (lineBreaks_escapeValue d.uri)
  rw [Declaration.print_eq]
  exact lineBreaks_eq_zero (by simp [hname, hvalue])

theorem lineBreaks_printElement (h : ∀ d ∈ t.declarations, d.IsPlain)
    (h' : ∀ d ∈ t'.declarations, d.IsPlain) (hname : t'.name = t.name)
    (hattributes : t'.attributes = t.attributes) :
    lineBreaks (Node.element t' children).print = lineBreaks (Node.element t children).print := by
  have hzero : ∀ ds : List Declaration, (∀ d ∈ ds, d.IsPlain) →
      lineBreaks (ds.flatMap Declaration.print) = 0 := by
    intro ds hds
    induction ds with
    | nil => rfl
    | cons d ds ih =>
      obtain ⟨hd, hds⟩ := List.forall_mem_cons.1 hds
      rw [List.flatMap_cons, lineBreaks_append, lineBreaks_printDeclaration hd, ih hds]
  have htag : lineBreaks t'.print = lineBreaks t.print := by
    rw [Tag.print, Tag.print, lineBreaks_append, lineBreaks_append, lineBreaks_append,
      lineBreaks_append, hzero _ h, hzero _ h', hname, hattributes]
  rw [Node.print, Node.print]
  split
  · rw [lineBreaks_append, lineBreaks_append, htag]
  · simp only [lineBreaks_append, htag, hname]

theorem onLine_of_isRead (hread : ∀ q ∈ root.places, q.tag.IsRead q.above) (hq : q ∈ root.places) :
    ∀ t ∈ q.element.node.tags, t.OnLine := by
  have honline : ∀ r ∈ root.places, r.tag.OnLine := by
    intro r hr
    refine ⟨fun hbreak => ?_, fun a ha n hn hbreak => ?_⟩
    · exact absurd ((hread r hr).name _ hbreak) (by decide)
    · exact absurd ((hread r hr).values a ha n hn _ hbreak) (by decide)
  intro t ht
  rw [Element.node, Node.tags, ← map_tag_placesBelow q.address q.tags 0, List.mem_cons,
    List.mem_map] at ht
  rcases ht with rfl | ⟨r, hr, rfl⟩
  · exact honline q hq
  · exact honline r ((mem_below_iff hq).1 hr).1

theorem lineBreaks_alone (hplain : root.node.IsAllPlain) (hq : q ∈ root.places) :
    lineBreaks (q.element.alone q.above).node.print = lineBreaks q.element.node.print := by
  have hown := (Element.isAllPlain_of_mem_places hplain q hq).1
  refine lineBreaks_printElement hown (fun d hd => ?_) rfl rfl
  rcases mem_extend hd with hd | hd
  · rcases mem_extend hd with hd | hd
    · exact hown d hd
    · exact isPlain_of_mem_bindingsOf hplain hq hd
  · exact isPlain_of_mem_bindings hplain hq hd

theorem lineBreaks_detached (hplain : root.node.IsAllPlain) (hq : q ∈ root.places) :
    lineBreaks (q.element.detached q.above).node.print = lineBreaks q.element.node.print :=
  lineBreaks_printElement (Element.isAllPlain_of_mem_places hplain q hq).1
    (isPlain_of_mem_detached hplain hq fun _ hd => hd) rfl rfl

end Printed

namespace Outline

variable (o : Outline)

/-- An element that comes to an expression with all of its lines. No node has left it, and if it is
a node itself, it is found by its placeholder. -/
structure ComesWhole (c : Place) : Prop where
  inside : ∀ n ∈ o.selector.nodes o.root, c.address <+: n.address → n = c
  known : c ∈ o.selector.nodes o.root → ∀ e,
    o.selector.policy.newPlaceholder c.above (o.idAt c.address) = .ok e →
      o.selector.policy.isPlaceholder e.tag = true
  only : c ∈ o.selector.nodes o.root → ∀ n ∈ o.selector.nodes o.root,
    o.idAt n.address = o.idAt c.address → n = c
  other : c ∉ o.selector.nodes o.root → o.selector.policy.isPlaceholder c.tag = false

/-- The stretches of the content of an element. -/
def stretches (m : Matcher) (left : Nat → String) (r : Place) : List Stretch :=
  Stretch.ofNodes m left
    (fun k => (o.selector.nodes o.root).any (·.address == r.address ++ [k])) 0 false
    r.element.children

/-- The lines of the pieces in the site of the content of an element. -/
structure HasLines (hypertext : Bool) (m : Matcher) (r : Place) (f : SiteFields) : Prop where
  id : f.id = o.idAt r.address
  path : f.path = o.pathAt r.address
  /-- Only what is left is counted. -/
  counted : ∀ (before : List ContentToken) t after, f.content = before ++ t :: after →
    t.line = (r.tag.line : Int) + ((before.map fun u => lineBreaks u.value.toList).sum : Nat)
  /-- The pieces stand for the markup of the content. Each begins on its line there, but for the
  line breaks that are lost before it. -/
  written : (∀ n ∈ r.element.children, Content.isClear n = true) →
    (∀ c ∈ r.children, c ∉ o.selector.nodes o.root → ∀ k, c.address = r.address ++ [k] →
      Content.standInNumber k c.element.node = k) →
    ∃ left : Nat → String,
      (∀ c ∈ r.children, ∀ k, c.address = r.address ++ [k] →
        (c ∉ o.selector.nodes o.root → o.selector.policy.isPlaceholder c.tag = false) →
          o.IsMarkupOf hypertext c (left k))
      ∧ (o.stretches m left r).flatMap Stretch.markup = printAll r.element.children
      ∧ (o.stretches m left r).flatMap Stretch.value = f.content.flatMap (·.value.toList)
      ∧ (∀ s ∈ o.stretches m left r, s.lost ≠ 0 →
        (∃ body, .comment body ∈ r.element.children ∧ m.holds body = true
          ∧ s = ⟨printComment body, []⟩)
        ∨ ∃ c ∈ r.children, ¬o.ComesWhole c ∧ s.markup = c.element.node.print)
      ∧ ∀ (before : List ContentToken) t after, f.content = before ++ t :: after →
        ∃ front s back, o.stretches m left r = front ++ s :: back ∧ s.value ≠ []
          ∧ front.flatMap Stretch.value = before.flatMap (·.value.toList)
          ∧ t.line + (front.map Stretch.lost).sum
            = (r.tag.line : Int) + lineBreaks (front.flatMap Stretch.markup)

variable {o : Outline} {hypertext : Bool} {c : Place} {v : String}

theorem ComesWhole.lineBreaks_eq (h : o.ComesWhole c) (hv : o.IsMarkupOf hypertext c v)
    (hplain : o.root.node.IsAllPlain) (hread : ∀ q ∈ o.root.places, q.tag.IsRead q.above)
    (hc : c ∈ o.root.places) :
    lineBreaks v.toList = lineBreaks c.element.node.print := by
  by_cases hnode : c ∈ o.selector.nodes o.root
  · obtain ⟨e, hnew, hspec⟩ := hv.node hnode
    rw [if_pos (h.known hnode e hnew)] at hspec
    obtain ⟨n, hn, hid, rfl⟩ := hspec
    obtain rfl := h.only hnode n hn hid
    rw [found_eq_self fun n' hn' hpre => congrArg Place.address (h.inside n' hn' hpre),
      Element.print, String.toList_ofList, lineBreaks_detached hplain hc]
  · have hnone : ∀ n ∈ o.selector.nodes o.root, ¬c.address <+: n.address :=
      fun n hn hpre => hnode (h.inside n hn hpre ▸ hn)
    have honline : ∀ t ∈ (c.element.alone c.above).node.tags, t.OnLine := by
      have hown := onLine_of_isRead hread hc
      rw [Element.node, Node.tags, List.forall_mem_cons] at hown ⊢
      exact ⟨⟨hown.1.name, hown.1.values⟩, hown.2⟩
    rw [hv.verbatim hnone, lineBreaks_markupIn hypertext honline, lineBreaks_alone hplain hc]

theorem lost_of_mem_stretches {m : Matcher} {left : Nat → String} {r : Place} {s : Stretch}
    (hplain : o.root.node.IsAllPlain) (hread : ∀ q ∈ o.root.places, q.tag.IsRead q.above)
    (hr : r ∈ o.root.places)
    (hmarkup : ∀ c ∈ r.children, ∀ k, c.address = r.address ++ [k] →
      (c ∉ o.selector.nodes o.root → o.selector.policy.isPlaceholder c.tag = false) →
        o.IsMarkupOf hypertext c (left k))
    (hs : s ∈ o.stretches m left r) (hlost : s.lost ≠ 0) :
    (∃ body, .comment body ∈ r.element.children ∧ m.holds body = true
      ∧ s = ⟨printComment body, []⟩)
    ∨ ∃ c ∈ r.children, ¬o.ComesWhole c ∧ s.markup = c.element.node.print := by
  refine (Stretch.lost_of_mem_ofNodes hs hlost).imp_right ?_
  rintro ⟨k, n, hn, he, hs⟩
  cases n with
  | element tag children =>
    have hc : (⟨r.address ++ [k], r.tags, ⟨tag, children⟩⟩ : Place) ∈ r.children :=
      mem_childPlaces_iff.2 ⟨k, hn, by rw [Nat.zero_add], rfl⟩
    refine ⟨_, hc, fun hwhole => hlost ?_, by rw [hs]; rfl⟩
    have hlines := hwhole.lineBreaks_eq (hmarkup _ hc k rfl hwhole.other) hplain hread
      ((Place.mem_children_iff hr).1 hc).1
    rw [hs, Nat.zero_add, Stretch.lost, hlines]
    exact sub_self _
  | text _ | cdata _ | comment _ | instruction _ _ | reference _ => cases he

end Outline

namespace Working

def leftAt (p : Pass) (owner : Place) (w : Work) (k : Nat) : String :=
  (((Markup.items owner.element.children)[k]?.bind Node.element?).bind fun e =>
    (embedded p owner e w).toOption.map Prod.fst).getD ""

theorem leftAt_of_embedded {p : Pass} {owner : Place} {w w' : Work} {k : Nat} {e : Element}
    {v : String} (hk : (Markup.items owner.element.children)[k]? = some e.node)
    (h : embedded p owner e w = .ok (v, w')) : leftAt p owner w k = v := by
  rw [leftAt, hk, Option.bind_some, Element.node, Node.element?, Option.bind_some, h]
  rfl

end Working

namespace Pass

variable {p : Pass} {policy : Policy} {root : Element} {nodes : List Place} {r c x : Place}

theorem getElem?_items_shown (hx : p.Shows nodes r x) (hc : c ∈ r.children) {k : Nat}
    (hk : c.address = r.address ++ [k]) :
    (Markup.items x.element.children)[k]? = some (p.standing nodes c).element.node := by
  obtain ⟨j, hitem, haddress, -⟩ := mem_childPlaces_iff.1 hc
  obtain rfl : j = k := by simpa [hk] using haddress.symm
  rw [hx.children, getElem?_items_cutNodes, hitem, Nat.zero_add, ← hk, Option.map_some, standing]
  cases hph : p.placeholders nodes c.address with
  | none =>
    have hstands : (p.placeholders nodes).standsFor c.address c.element.node = none := hph
    rw [hstands, Element.node, cutNode]
    rfl
  | some e =>
    have hstands : (p.placeholders nodes).standsFor c.address c.element.node = some e := hph
    rw [hstands]
    rfl

theorem exists_item_shown (hx : p.Shows nodes r x) (k : Nat) (n : Node)
    (hn : (Markup.items r.element.children)[k]? = some n) :
    ∃ m, (Markup.items x.element.children)[0 + k]? = some m
      ∧ (m = n ∨ n.isElement = true ∧ m.isElement = true) := by
  rw [hx.children, Nat.zero_add, getElem?_items_cutNodes, hn, Option.map_some]
  refine ⟨_, rfl, ?_⟩
  split
  · rename_i e hstands
    exact .inr ⟨(Placeholders.of_standsFor hstands).1, rfl⟩
  · cases n with
    | element tag children => exact .inr ⟨rfl, by rw [cutNode]; rfl⟩
    | text _ | cdata _ | comment _ | instruction _ _ | reference _ => exact .inl (by simp [cutNode])

theorem items_shown (hfills : p.Fills (p.selector.nodes root)) (hplain : root.HoldsPlain)
    (hr : r ∈ root.places) (hx : p.Shows (p.selector.nodes root) r x)
    (hclear : ∀ n ∈ r.element.children, Content.isClear n = true)
    (hnumbers : ∀ c ∈ r.children, c ∉ p.selector.nodes root → ∀ k, c.address = r.address ++ [k] →
      Content.standInNumber k c.element.node = k) :
    Content.items x.element = Content.shownItems
      (fun k => (p.selector.nodes root).any (·.address == r.address ++ [k])) 0 [] false
      r.element.children := by
  have hplain' := isPlain_shown hplain hr hx
  have hfound : ∀ k m, (Markup.items x.element.children)[k]? = some m →
      Content.foundNumber (0 + k) m = 0 + k := by
    intro k m hm
    obtain ⟨hmem, hchild⟩ := List.mem_filter.1 (List.mem_of_getElem? hm)
    rw [Nat.zero_add, ← Content.standInNumber_eq (by simpa using hchild) (hplain' m hmem)]
    exact standInNumber_shown hfills hx hnumbers k m hm
  rw [Content.items_eq hplain' (isClear_shown hx hclear),
    Content.itemsOf_eq_itemsInOrder hplain' 0 [] hfound, ← Content.shownItems_eq_itemsInOrder,
    hx.children, Content.shownItems_cutNodes (areElements_placeholders hr),
    isSome_placeholders_children hfills]

theorem isMarkupOf_leftAt (hp : Starts policy root p) (hfills : p.Fills (p.selector.nodes root))
    (hplain : root.HoldsPlain) {q : Place} {done : List Place} (hq : q ∈ p.selector.nodes root)
    (hdone : ∀ n ∈ done, n ∈ p.selector.nodes root) (hr : r ∈ root.places)
    (hshows : p.Shows (p.selector.nodes root) r x) (htag : x.Resembles r)
    (hclear : ∀ n ∈ r.element.children, Content.isClear n = true)
    (hnumbers : ∀ c ∈ r.children, c ∉ p.selector.nodes root → ∀ k, c.address = r.address ++ [k] →
      Content.standInNumber k c.element.node = k) {ts : List Token} {vs : List String}
    (hall : List.Forall₂ (fun e v => Working.embedded p x e
        { p.workOn root (p.selector.nodes root) done q with tokens := ts }
          = .ok (v, { p.workOn root (p.selector.nodes root) done q with tokens := ts }))
      ((Content.items x.element).filterMap (Content.Item.element? x.element.children)) vs)
    (hc : c ∈ r.children) {k : Nat} (hk : c.address = r.address ++ [k])
    (hother : c ∉ p.selector.nodes root → policy.isPlaceholder c.tag = false) :
    (p.outline root).IsMarkupOf p.hypertext c (Working.leftAt p x
      { p.workOn root (p.selector.nodes root) done q with tokens := ts } k) := by
  have hembedded := forall₂_embedded hfills hplain hr hshows hclear hnumbers hall
  obtain ⟨v, -, hv⟩ := exists_of_forall₂ hembedded.flip hc
  rw [Working.leftAt_of_embedded (getElem?_items_shown hshows hc hk) hv]
  exact isMarkupOf_embedded hp hfills hother hr htag hc hq hdone hv

/-- What a stream says of the lines in the content of an element. -/
theorem tellsContents_hasLines (hp : Starts policy root p)
    (hfills : p.Fills (p.selector.nodes root)) (hall : root.node.IsAllPlain)
    (hread : ∀ q ∈ root.places, q.tag.IsRead q.above) :
    p.TellsContents root ((p.outline root).HasLines p.hypertext p.directives) := by
  intro q hq done hdone r hr x hshows hx t hgives
  have htag := resembles_of_shows hp hfills hq hr hshows hx
  have hplain := Element.holdsPlain_of_isAllPlain hall
  obtain ⟨ts, hsite⟩ := hgives
  obtain ⟨f, hf, helements⟩ := Working.contentSite_elements hsite
  have hbody := Token.body_of_contentSite? hf
  obtain ⟨hid, hpath, -⟩ := fields_of_outline hbody
    (congrArg Token.body (outline_contentOf hp hr htag ⟨ts, hsite⟩))
  obtain ⟨content, mid, hitems, htoken⟩ := Working.bind_ok hsite
  obtain ⟨-, f', hbody', -, hcontent⟩ := Working.token_ok (Working.ofExcept_ok htoken).1
  obtain rfl : f' = f := by simpa [hbody] using hbody'.symm
  have hlossless := (Working.addItems_isLossless (SiteContent.isLossless_start x.tag.line)
    (fun m => Content.cdata_mem_itemsFrom) hitems).1
  have hcounted : ∀ (before : List ContentToken) u after, f'.content = before ++ u :: after →
      u.line = (r.tag.line : Int)
        + ((before.map fun u => lineBreaks u.value.toList).sum : Nat) :=
    fun before u after hsplit => htag.line ▸ hlossless.tokens.lines (hcontent ▸ hsplit)
  refine ⟨f', hf, hid, hpath, hcounted, fun hclear hnumbers => ?_⟩
  have hpolicy : (p.outline root).selector.policy = policy := hp.isOf.policy
  have hmarkup : ∀ c ∈ r.children, ∀ k, c.address = r.address ++ [k] →
      (c ∉ p.selector.nodes root → (p.outline root).selector.policy.isPlaceholder c.tag = false) →
        (p.outline root).IsMarkupOf p.hypertext c (Working.leftAt p x
          { p.workOn root (p.selector.nodes root) done q with tokens := ts } k) := by
    intro c hc k hk hother
    exact isMarkupOf_leftAt hp hfills hplain hq hdone hr hshows htag hclear hnumbers helements hc hk
      (hpolicy ▸ hother)
  rw [items_shown hfills hplain hr hshows hclear hnumbers] at hitems
  have haligned := Working.addItems_aligned
    (.nil (List.forall_mem_nil _) : Aligned (SiteContent.start x.tag.line).tokens [])
    (List.forall_mem_nil _ : Stretch.AreFine []) rfl (exists_item_shown hshows)
    (fun k tag children v hk hv => (Working.leftAt_of_embedded hk hv).symm) hitems
  refine ⟨Working.leftAt p x _, hmarkup, Stretch.markup_ofNodes, ?_,
    fun s hs hlost => Outline.lost_of_mem_stretches hall hread hr hmarkup hs hlost,
    fun before u after hsplit => ?_⟩
  · rw [hcontent, haligned.flatMap_value]
    rfl
  · obtain ⟨front, s, back, hstretches, hs, hfront⟩ := haligned.exists_start (hcontent ▸ hsplit)
    refine ⟨front, s, back, hstretches, hs, hfront, ?_⟩
    have hsum : lineBreaks (front.flatMap Stretch.value)
        = (before.map fun u => lineBreaks u.value.toList).sum :=
      hfront ▸ List.count_flatMap
    rw [hcounted before u after hsplit, ← Stretch.lineBreaks_value, hsum, add_assoc]

end Pass

namespace Document

/-- The lines in the expressions of a stream that are contents. -/
theorem lex_lines {source : Source} {policy : Policy} {d : Markup.Document}
    {file : Option String} {stream : LexedStream} (hload : source.load file = .ok d)
    (h : (lex policy d file).run.1 = .ok stream) :
    ∃ (o : Outline) (m : Matcher), o.IsOf policy d.root ∧ policy.matcher = .ok m
      ∧ List.Forall₂ (o.HasLines d.isHypertext m)
        ((byDepth (o.selector.nodes d.root)).flatMap
          (o.selector.contentSites d.root (o.selector.nodes d.root)))
        (stream.toList.filterMap Token.contentSite?) := by
  obtain ⟨p, blocks, hp, hhypertext, hblocks, hstream⟩ := lex_ok h
  have htells := Pass.tellsContents_hasLines hp hblocks.fills (Source.isAllPlain_of_load hload)
    (Source.isRead_of_load hload)
  exact ⟨p.outline d.root, p.directives, hp.isOf, hp.directives,
    hhypertext ▸ Pass.contentSites_stream hp hblocks htells hstream⟩

/-- The source of a document with markup of more than one line in an expression. -/
def sourceOfLines : Source :=
  .text "<r>\x7b% a\n%\x7d<i>\n</i><!--\n-->{% b %}</r>"

theorem lex_lines_sample : ∃ d stream, sourceOfLines.load none = .ok d
    ∧ (lex .standard d none).run.1 = .ok stream
    ∧ ∃ (o : Outline) (m : Matcher), o.IsOf .standard d.root
      ∧ Policy.standard.matcher = .ok m
      ∧ List.Forall₂ (o.HasLines d.isHypertext m)
        ((byDepth (o.selector.nodes d.root)).flatMap
          (o.selector.contentSites d.root (o.selector.nodes d.root)))
        (stream.toList.filterMap Token.contentSite?) := by
  have hlexes : (match sourceOfLines.load none with
      | .ok d => (lex .standard d none).run.1.isOk
      | .error _ => false) = true := by
    decide +kernel
  split at hlexes
  · rename_i d hload
    obtain ⟨stream, h⟩ := Except.exists_of_isOk hlexes
    exact ⟨d, stream, hload, h, lex_lines hload h⟩
  · cases hlexes

/-- The source of a document with a directive of two lines in an expression. -/
def sourceOfDirective : Source := .text "<r>{% a %}<!--%\n%-->{% b %}</r>"

/-- The source of a document with a node of two lines inside an element in an expression. -/
def sourceOfLeaving : Source :=
  .text "<r xmlns:x=\"urn:x\">{% a %}<b><x:n>\n</x:n></b>{% b %}</r>"

/-- What comes after a line break that is not left in the content is one line too far up. -/
theorem lex_lines_lost :
    [sourceOfDirective, sourceOfLeaving].map (fun source =>
        (source.load none).toOption.bind fun d =>
          (lex .standard d none).run.1.toOption.map fun stream =>
            (lineBreaks (printAll d.root.children),
              (stream.toList.filterMap Token.contentSite?).map fun f =>
                f.content.map fun t => (t.kind, t.line)))
      = [some (1, [[(.expressionOpen, 1), (.expressionChars, 1), (.expressionClose, 1),
            (.expressionOpen, 1), (.expressionChars, 1), (.expressionClose, 1)]]),
          some (1, [[(.expressionOpen, 1), (.expressionChars, 1), (.expressionClose, 1),
            (.expressionElement, 1), (.expressionOpen, 1), (.expressionChars, 1),
            (.expressionClose, 1)]])] := by
  decide +kernel

end Document

end TemplateLexer
