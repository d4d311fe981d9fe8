import TemplateLexer.Proofs.ContentItems
import TemplateLexer.Proofs.Outline

set_option autoImplicit false

namespace TemplateLexer

open Markup

/-- What the content of a site has of text and of sections: characters, and sections as they are
written. -/
inductive Letter where
  | char (c : Char)
  | section (markup : String)
  deriving DecidableEq, Repr

namespace ContentToken

/-- Delimiters and characters of expressions are text; a section is told by its kind, and other
markup does not count. -/
def letters (t : ContentToken) : List Letter :=
  match t.kind with
  | .expressionOpen | .expressionClose | .expressionChars => t.value.toList.map .char
  | .expressionCdata => [.section t.value]
  | _ => []

end ContentToken

namespace Markup.Node

/-- Text gives its characters, and so does the written form of a reference. -/
def letters : Node → List Letter
  | .text s => s.toList.map .char
  | .cdata s => [.section (String.ofList (printCdata s))]
  | .reference name => (printReference name).map .char
  | _ => []

end Markup.Node

namespace Content

/-- The letters of an item; a child is looked up by its number. -/
def Item.letters (children : List Node) : Item → List Letter
  | .text s => s.toList.map .char
  | .cdata markup => [.section markup]
  | .child index => ((Markup.items children)[index]?.map Node.letters).getD []

/-- The letters of nodes, in which the child with an index has those that `child` gives. In text
that is `plain`, and in what comes right after a child that `makesPlain`, sections are text too. -/
def lettersOf (child : Nat → List Letter) (makesPlain : Nat → Bool) :
    (index : Nat) → (plain : Bool) → List Node → List Letter
  | _, _, [] => []
  | index, plain, n :: rest =>
    if n.isCharacters then
      (if plain then n.characters.toList.map .char else n.letters)
        ++ lettersOf child makesPlain index plain rest
    else child index ++ lettersOf child makesPlain (index + 1) (makesPlain index) rest

end Content

section Tokens

namespace SiteContent

variable {c : SiteContent}

/-- The letters of the tokens so far. -/
def letters (c : SiteContent) : List Letter := c.tokens.reverse.flatMap ContentToken.letters

theorem letters_addToken (t : ContentToken) (ts : List ContentToken) :
    (addToken t ts).reverse.flatMap ContentToken.letters
      = ts.reverse.flatMap ContentToken.letters ++ t.letters := by
  cases ts with
  | nil => simp [addToken]
  | cons last ts =>
    rw [addToken]
    split
    · rename_i hchars
      simp [ContentToken.letters, hchars.1, hchars.2]
    · simp

theorem letters_addMarkup (kind : TokenKind) (markup : String) :
    (c.addMarkup kind markup).letters
      = c.letters ++ (⟨kind, c.scanner.line, markup⟩ : ContentToken).letters :=
  letters_addToken _ _

theorem letters_foldl_addToken (runs : List Run) (ts : List ContentToken) :
    (runs.foldl (fun ts r => addToken ⟨r.kind.tokenKind, r.line, r.value⟩ ts) ts).reverse.flatMap
        ContentToken.letters
      = ts.reverse.flatMap ContentToken.letters
        ++ runs.flatMap fun r => r.value.toList.map Letter.char := by
  induction runs generalizing ts with
  | nil => simp
  | cons r runs ih =>
    have htoken : (⟨r.kind.tokenKind, r.line, r.value⟩ : ContentToken).letters
        = r.value.toList.map Letter.char := by
      cases hkind : r.kind <;> simp [ContentToken.letters, RunKind.tokenKind]
    rw [List.foldl_cons, ih, letters_addToken, htoken, List.flatMap_cons, List.append_assoc]

theorem letters_addText (c : SiteContent) (s : String) :
    (c.addText s).letters = c.letters ++ s.toList.map Letter.char := by
  have hruns : ∀ (scanner : Scanner) (ps : List Piece),
      ((scanner.runs ps).1.flatMap fun r => r.value.toList.map Letter.char)
        = (ps.flatMap Piece.text).map Letter.char := by
    intro scanner ps
    induction ps generalizing scanner with
    | nil => rfl
    | cons p ps ih => simp [Scanner.runs, ih]
  have hall := letters_foldl_addToken (c.scanner.feed s).1 c.tokens
  rw [Scanner.feed, hruns, Piece.flatMap_split] at hall
  exact hall

end SiteContent

end Tokens

namespace Working

variable {p : Pass} {owner place : Place} {w w' : Work}

/-- What an item adds to the content of a site. Nothing is left of a directive. -/
inductive Adds (p : Pass) (owner : Place) (w : Work) (c : SiteContent) :
    Content.Item → SiteContent → Prop
  | text (s : String) : Adds p owner w c (.text s) (c.addText s)
  | cdata (markup : String) :
      Adds p owner w c (.cdata markup) (c.addMarkup .expressionCdata markup)
  | directive {index : Nat} {body : String}
      (item : (Markup.items owner.element.children)[index]? = some (.comment body))
      (dropped : (Content.commentMarkup p.directives body).isEmpty = true) :
      Adds p owner w c (.child index) c
  | comment {index : Nat} {body : String}
      (item : (Markup.items owner.element.children)[index]? = some (.comment body))
      (kept : ¬(Content.commentMarkup p.directives body).isEmpty = true) :
      Adds p owner w c (.child index)
        (c.addMarkup .expressionComment (Content.commentMarkup p.directives body))
  | instruction {index : Nat} {target : String} {data : Option String}
      (item : (Markup.items owner.element.children)[index]? = some (.instruction target data)) :
      Adds p owner w c (.child index) (c.addMarkup .expressionInstruction
        (String.ofList (printInstruction target (if data == some "" then none else data))))
  | reference {index : Nat} {name : String}
      (item : (Markup.items owner.element.children)[index]? = some (.reference name)) :
      Adds p owner w c (.child index) (c.addText (String.ofList (printReference name)))
  | element {index : Nat} {tag : Tag} {children : List Node} {markup : String}
      (item : (Markup.items owner.element.children)[index]? = some (.element tag children))
      (made : embedded p owner ⟨tag, children⟩ w = .ok (markup, w)) :
      Adds p owner w c (.child index) (c.addMarkup .expressionElement markup)

theorem adds_of_addItem {c c' : SiteContent} {item : Content.Item}
    (h : addItem p owner c item w = .ok (c', w')) : w' = w ∧ Adds p owner w c item c' := by
  cases item with
  | text s =>
    obtain ⟨rfl, rfl⟩ := pure_ok h
    exact ⟨rfl, .text s⟩
  | cdata markup =>
    obtain ⟨rfl, rfl⟩ := pure_ok h
    exact ⟨rfl, .cdata markup⟩
  | child index =>
    rw [addItem] at h
    cases hitem : (Markup.items owner.element.children)[index]? with
    | none =>
      rw [hitem] at h
      exact (fail_ok h).elim
    | some n =>
      have hn : n.isCharacters = false := by
        simpa using (List.mem_filter.1 (List.mem_of_getElem? hitem)).2
      rw [hitem] at h
      cases n with
      | comment body =>
        simp only at h
        split at h
        · obtain ⟨rfl, rfl⟩ := pure_ok h
          exact ⟨rfl, .directive hitem ‹_›⟩
        · obtain ⟨rfl, rfl⟩ := pure_ok h
          exact ⟨rfl, .comment hitem ‹_›⟩
      | instruction target data =>
        obtain ⟨rfl, rfl⟩ := pure_ok h
        exact ⟨rfl, .instruction hitem⟩
      | reference name =>
        obtain ⟨rfl, rfl⟩ := pure_ok h
        exact ⟨rfl, .reference hitem⟩
      | element tag children =>
        obtain ⟨markup, mid, hembedded, hrest⟩ := bind_ok h
        obtain ⟨rfl, rfl⟩ := pure_ok hrest
        obtain rfl := (reads_embedded p owner _).eq hembedded
        exact ⟨rfl, .element hitem hembedded⟩
      | text _ | cdata _ => cases hn

theorem addItem_ok {c c' : SiteContent} {item : Content.Item}
    (h : addItem p owner c item w = .ok (c', w')) :
    c'.letters = c.letters ++ item.letters owner.element.children := by
  cases (adds_of_addItem h).2 with
  | text s => exact c.letters_addText s
  | cdata markup => exact SiteContent.letters_addMarkup _ _
  | directive item _ =>
    rw [Content.Item.letters, item]
    exact (List.append_nil _).symm
  | comment item _ | instruction item | element item _ =>
    rw [Content.Item.letters, item]
    exact SiteContent.letters_addMarkup _ _
  | reference item =>
    rw [Content.Item.letters, item, SiteContent.letters_addText, String.toList_ofList]
    rfl

theorem addItems_ok {c c' : SiteContent} {items : List Content.Item}
    (h : items.foldlM (addItem p owner) c w = .ok (c', w')) :
    c'.letters = c.letters ++ items.flatMap (Content.Item.letters owner.element.children) := by
  induction items generalizing c w with
  | nil =>
    obtain ⟨rfl, -⟩ := pure_ok h
    simp
  | cons item items ih =>
    rw [List.foldlM_cons] at h
    obtain ⟨next, mid, hitem, hrest⟩ := bind_ok h
    rw [ih hrest, addItem_ok hitem, List.flatMap_cons, List.append_assoc]

theorem contentSite_ok {t : Token} (h : contentSite p place w = .ok (t, w')) :
    ∃ f, t.body = .site f ∧ f.path = p.pathAt place.address
      ∧ f.id = p.digest.hex (p.pathAt place.address) ∧ f.attributeName = none
      ∧ f.content.flatMap ContentToken.letters
        = (Content.items place.element).flatMap (Content.Item.letters place.element.children) := by
  obtain ⟨c, mid, hitems, htoken⟩ := bind_ok h
  have hletters := addItems_ok hitems
  have ht := (ofExcept_ok htoken).1
  rw [SiteContent.token] at ht
  split at ht
  · cases ht
    exact ⟨_, rfl, rfl, rfl, rfl, hletters⟩
  · cases ht

end Working

namespace Content

variable {child : Nat → List Letter} {makesPlain : Nat → Bool} {children nodes : List Node}

theorem letters_textItems (front : List Char) :
    (textItems front).flatMap (Item.letters children) = front.map .char := by
  rw [textItems]
  split
  · rename_i hnil
    rw [List.isEmpty_iff.1 hnil]
    rfl
  · simp [Item.letters]

def readLetters (children : List Node) (index : Nat) : List Letter :=
  (((Markup.items children)[index]?).map fun n =>
    Item.letters children (.child (standInNumber index n))).getD []

theorem letters_itemsOf {before : List Node}
    (h : Markup.items children = before ++ Markup.items nodes) (front : List Char) :
    (itemsOf before.length front nodes).flatMap (Item.letters children)
      = front.map .char
        ++ lettersOf (readLetters children) (fun _ => false) before.length false nodes := by
  induction nodes generalizing before front with
  | nil => rw [itemsOf, letters_textItems, lettersOf, List.append_nil]
  | cons n rest ih =>
    cases hn : n.isCharacters with
    | true =>
      have hrest : Markup.items children = before ++ Markup.items rest := by
        rwa [items_cons, if_pos hn] at h
      rw [lettersOf, if_pos hn, if_neg (by simp)]
      cases n with
      | text s => rw [itemsOf, ih hrest, List.map_append, List.append_assoc, Node.letters]
      | cdata s =>
        rw [itemsOf, List.flatMap_append, List.flatMap_cons, letters_textItems, ih hrest]
        rfl
      | element _ _ | comment _ | instruction _ _ | reference _ => cases hn
    | false =>
      have hrest : Markup.items children = (before ++ [n]) ++ Markup.items rest := by
        rw [items_cons, if_neg (by simp [hn])] at h
        simpa using h
      have hread : readLetters children before.length
          = Item.letters children (.child (standInNumber before.length n)) := by
        have hitem : (Markup.items children)[before.length]? = some n := by simp [hrest]
        rw [readLetters, hitem]
        rfl
      have hlater := ih hrest []
      rw [List.length_append, List.length_singleton] at hlater
      rw [itemsOf_child hn, List.flatMap_append, List.flatMap_cons, letters_textItems, hlater,
        lettersOf, if_neg (by simp [hn]), hread]
      rfl

/-- A child is read to have its own letters, unless it is an element; then it may be read as another
child. -/
theorem readLetters_eq {index : Nat} {n : Node} (h : (Markup.items children)[index]? = some n) :
    readLetters children index = n.letters
      ∨ n.isElement = true
        ∧ ∃ m ∈ Markup.items children, readLetters children index = m.letters := by
  have hn : n.isCharacters = false := by
    simpa using (List.mem_filter.1 (List.mem_of_getElem? h)).2
  have hread : readLetters children index
      = ((Markup.items children)[standInNumber index n]?.map Node.letters).getD [] := by
    rw [readLetters, h]
    rfl
  cases he : n.isElement with
  | false =>
    rw [standInNumber_remark hn he, h] at hread
    exact .inl hread
  | true =>
    cases hitem : (Markup.items children)[standInNumber index n]? with
    | none =>
      rw [hitem] at hread
      cases n with
      | element _ _ => exact .inl hread
      | text _ | cdata _ | comment _ | instruction _ _ | reference _ => cases he
    | some m =>
      rw [hitem] at hread
      exact .inr ⟨rfl, m, List.mem_of_getElem? hitem, hread⟩

section Cut

theorem lettersOf_of_front (h : ∀ n ∈ nodes.head?, n.isCharacters = false) (index : Nat)
    (plain : Bool) : lettersOf child makesPlain index plain nodes
      = lettersOf child makesPlain index false nodes := by
  cases nodes with
  | nil => rfl
  | cons n rest =>
    have hn : ¬n.isCharacters = true := by simp [h n rfl]
    rw [lettersOf, lettersOf, if_neg hn, if_neg hn]

theorem lettersOf_run {run : List Node} (hrun : ∀ n ∈ run, n.isCharacters = true) (index : Nat) :
    lettersOf child makesPlain index true (run ++ nodes)
      = (runText run).toList.map .char ++ lettersOf child makesPlain index true nodes := by
  rw [toList_runText]
  induction run with
  | nil => rfl
  | cons n run ih =>
    obtain ⟨hn, hrest⟩ := List.forall_mem_cons.1 hrun
    rw [List.cons_append, lettersOf, if_pos hn, if_pos rfl, ih hrest, List.flatMap_cons,
      List.map_append, List.append_assoc]

theorem lettersOf_joinFront (index : Nat) :
    lettersOf child makesPlain index false (joinFront nodes)
      = lettersOf child makesPlain index true nodes := by
  obtain ⟨run, rest, rfl, hrun, hfront, hjoin⟩ := exists_run nodes
  rw [hjoin, lettersOf_run hrun, lettersOf_of_front hfront]
  split
  · rename_i hnil
    rw [List.isEmpty_iff.1 hnil]
    rfl
  · rfl

def AreElements (ph : Placeholders) (a : Address) (index : Nat) (nodes : List Node) : Prop :=
  ∀ k n, (Markup.items nodes)[k]? = some n → n.isElement = false → ph (a ++ [index + k]) = none

section AreElements

variable {ph : Placeholders} {a : Address} {index : Nat} {n : Node}

theorem AreElements.of_text (h : AreElements ph a index (n :: nodes)) (hn : n.isCharacters = true) :
    AreElements ph a index nodes := by
  rwa [AreElements, items_cons, if_pos hn] at h

theorem AreElements.of_child (h : AreElements ph a index (n :: nodes))
    (hn : n.isCharacters = false) : AreElements ph a (index + 1) nodes := by
  rw [AreElements, items_cons, hn, if_neg Bool.false_ne_true] at h
  intro k m hm he
  rw [Nat.add_right_comm]
  exact h (k + 1) m hm he

theorem AreElements.eq_none (h : AreElements ph a index (n :: nodes)) (hn : n.isCharacters = false)
    (hs : ph.standsFor (a ++ [index]) n = none) : ph (a ++ [index]) = none := by
  rw [AreElements, items_cons, hn, if_neg Bool.false_ne_true] at h
  cases he : n.isElement with
  | false => exact h 0 n rfl he
  | true => simpa [Placeholders.standsFor, he] using hs

end AreElements

theorem lettersOf_cutNodes {ph : Placeholders} {a : Address} {index : Nat}
    (h : AreElements ph a index nodes) (plain : Bool) :
    lettersOf child (fun _ => false) index plain (cutNodes ph a index nodes)
      = lettersOf child (fun k => (ph (a ++ [k])).isSome) index plain nodes := by
  induction nodes generalizing index plain with
  | nil => simp [lettersOf]
  | cons n rest ih =>
    cases hn : n.isCharacters with
    | true => rw [cutNodes_text hn, lettersOf, lettersOf, if_pos hn, if_pos hn, ih (h.of_text hn)]
    | false =>
      have hn' : ¬n.isCharacters = true := by simp [hn]
      have hrest := h.of_child hn
      rw [lettersOf, if_neg hn']
      cases hs : ph.standsFor (a ++ [index]) n with
      | none =>
        rw [cutNodes_staying hn hs, lettersOf, isCharacters_cutNode, if_neg hn', ih hrest,
          h.eq_none hn hs]
        rfl
      | some e =>
        rw [cutNodes_standing hs, lettersOf, Node.isCharacters_node, if_neg (by simp),
          lettersOf_joinFront, ih hrest, (Placeholders.of_standsFor hs).2]
        rfl

end Cut

end Content

end TemplateLexer
