import Mathlib.Data.List.SplitBy
import TemplateLexer.Proofs.PlainNodes
/-!
Text and sections come out of what they are written as. Each section is found and kept as it is
written. The texts between two of them come as one piece with their own characters, also where these
spell a reference or what opens a section.
-/

set_option autoImplicit false

namespace TemplateLexer.Content

open Markup

/-- Two texts with nothing between them. -/
def joins (m n : Node) : Bool := m.isText && n.isText

/-- What a maximal piece of text and sections is cut into. -/
def pieceItems : List Node → List Item
  | [.cdata s] => [.cdata (String.ofList (printCdata s))]
  | texts => textItems (runText texts).toList

/-- One section, or texts. -/
inductive IsPiece : List Node → Prop where
  | cdata (s : String) : IsPiece [.cdata s]
  | texts {piece : List Node} (h : ∀ n ∈ piece, n.isText = true) : IsPiece piece

def ArePiecesApart (pieces : List (List Node)) : Prop :=
  pieces.IsChain fun p q => ∃ hp hq, joins (p.getLast hp) (q.head hq) = false

variable {n : Node} {nodes piece run : List Node} {pieces : List (List Node)}

section Pieces

theorem pieceItems_texts (h : ∀ n ∈ piece, n.isText = true) :
    pieceItems piece = textItems (runText piece).toList := by
  rw [pieceItems.eq_def]
  split
  · cases h _ (List.mem_singleton_self _)
  · rfl

theorem isText_of_isChain (h : (n :: nodes).IsChain fun m n => joins m n)
    (hn : n.isText = true) : ∀ m ∈ n :: nodes, m.isText = true := by
  induction nodes generalizing n with
  | nil => simpa using hn
  | cons m nodes ih =>
    obtain ⟨hjoins, hrest⟩ := List.isChain_cons_cons.1 h
    rw [joins, Bool.and_eq_true] at hjoins
    exact List.forall_mem_cons.2 ⟨hn, ih hrest hjoins.2⟩

theorem eq_nil_of_isChain (h : (n :: nodes).IsChain fun m n => joins m n)
    (hn : n.isText = false) : nodes = [] := by
  cases nodes with
  | nil => rfl
  | cons m nodes =>
    have hjoins := (List.isChain_cons_cons.1 h).1
    simp [joins, hn] at hjoins

theorem isPiece_of_mem_splitBy (hrun : ∀ n ∈ run, n.isCharacters = true)
    (hpiece : piece ∈ run.splitBy joins) : IsPiece piece := by
  have hchain := List.isChain_of_mem_splitBy hpiece
  cases piece with
  | nil => exact .texts (by simp)
  | cons n nodes =>
    have hn : n ∈ run := by
      rw [← List.flatten_splitBy joins run]
      exact List.mem_flatten_of_mem hpiece List.mem_cons_self
    have hcharacters := hrun n hn
    cases n with
    | text s => exact .texts (isText_of_isChain hchain rfl)
    | cdata s =>
      rw [eq_nil_of_isChain hchain rfl]
      exact .cdata s
    | element _ _ | comment _ | instruction _ _ | reference _ => cases hcharacters

end Pieces

section Items

theorem itemsOf_texts (h : ∀ n ∈ piece, n.isText = true) (index : Nat) (front : List Char) :
    itemsOf index front (piece ++ nodes)
      = itemsOf index (front ++ (runText piece).toList) nodes := by
  rw [toList_runText]
  induction piece generalizing front with
  | nil => rw [List.flatMap_nil, List.append_nil, List.nil_append]
  | cons n piece ih =>
    obtain ⟨hn, hrest⟩ := List.forall_mem_cons.1 h
    cases n with
    | text s =>
      rw [List.cons_append, itemsOf, ih hrest, List.flatMap_cons, List.append_assoc]
      rfl
    | element _ _ | cdata _ | comment _ | instruction _ _ | reference _ => cases hn

theorem itemsOf_of_front (h : ∀ n ∈ nodes.head?, n.isText = false) (index : Nat)
    (front : List Char) :
    itemsOf index front nodes = textItems front ++ itemsOf index [] nodes := by
  cases nodes with
  | nil => simp [itemsOf, textItems]
  | cons n nodes =>
    cases hn : n.isCharacters with
    | false =>
      rw [itemsOf_child hn, itemsOf_child hn]
      rfl
    | true =>
      cases n with
      | text s => cases h _ rfl
      | cdata s =>
        rw [itemsOf, itemsOf]
        rfl
      | element _ _ | comment _ | instruction _ _ | reference _ => cases hn

theorem isText_head_flatten (hapart : ArePiecesApart (piece :: pieces))
    (htexts : ∀ n ∈ piece, n.isText = true) : ∀ n ∈ pieces.flatten.head?, n.isText = false := by
  cases pieces with
  | nil => simp
  | cons next pieces =>
    obtain ⟨hpiece, hnext, hjoins⟩ := (List.isChain_cons_cons.1 hapart).1
    cases next with
    | nil => exact absurd rfl hnext
    | cons m next =>
      rw [joins, htexts _ (List.getLast_mem hpiece), Bool.true_and] at hjoins
      rintro n ⟨⟩
      exact hjoins

/-- The items of pieces that are apart are those of each piece. -/
theorem itemsOf_flatten (hpieces : ∀ p ∈ pieces, IsPiece p) (hapart : ArePiecesApart pieces)
    (index : Nat) : itemsOf index [] pieces.flatten = pieces.flatMap pieceItems := by
  induction pieces with
  | nil => rfl
  | cons p pieces ih =>
    obtain ⟨hp, hrest⟩ := List.forall_mem_cons.1 hpieces
    have htail := ih hrest hapart.tail
    rw [List.flatten_cons, List.flatMap_cons]
    cases hp with
    | cdata s =>
      rw [List.singleton_append, itemsOf, htail]
      rfl
    | texts h =>
      rw [itemsOf_texts h, List.nil_append, itemsOf_of_front (isText_head_flatten hapart h), htail,
        pieceItems_texts h]

end Items

/-- A section that does not hold its end mark is read up to the mark behind it. -/
theorem sectionEnd?_eq_none {s : List Char} (h : ¬sectionStop <:+: s) : sectionEnd? s = none :=
  Reading.sectionEnd?_eq_none_of_forall fun _ ht hstop =>
    h (List.infix_iff_prefix_suffix.2 ⟨_, hstop, ht⟩)

/-- What texts and sections are written as is cut into its sections, which stay as they are written,
and into the longest texts between them, with the characters that they had. Reading the references
of any escaped text gives the text and does nothing else. -/
theorem chunksOf_printAll_reverse (hrun : ∀ n ∈ run, n.isCharacters = true)
    (hbodies : ∀ s, .cdata s ∈ run → ¬sectionStop <:+: s.toList) :
    chunksOf (printAll run).reverse = (run.splitBy joins).flatMap pieceItems
    ∧ ∀ s : String, Text.unescape (escapeText s) = s.toList := by
  have hplain : ∀ n ∈ run, n.isCharacters = true ∧ n.IsPlain := by
    intro n hn
    have hcharacters := hrun n hn
    refine ⟨hcharacters, ?_⟩
    cases n with
    | text s => trivial
    | cdata s => exact sectionEnd?_eq_none (hbodies s hn)
    | element _ _ | comment _ | instruction _ _ | reference _ => cases hcharacters
  have hpieces : ∀ p ∈ run.splitBy joins, IsPiece p := fun _ hp => isPiece_of_mem_splitBy hrun hp
  refine ⟨?_, fun s => unescape_escapeText s.toList⟩
  calc chunksOf (printAll run).reverse
      = itemsOf 0 [] run := chunksOf_printAll hplain 0
    _ = itemsOf 0 [] (run.splitBy joins).flatten := by rw [List.flatten_splitBy]
    _ = (run.splitBy joins).flatMap pieceItems :=
      itemsOf_flatten hpieces (List.isChain_getLast_head_splitBy joins run) 0

/-- Texts and sections that spell references, marks of sections and other sections. -/
def crowdedRun : List Node :=
  [.text "a<![CDATA[&amp;", .text "&lt;", .cdata "<![CDATA[x]]", .cdata "", .text "", .cdata "]",
    .text "]]>\r&#13;&notit;"]

theorem chunksOf_crowdedRun :
    (∀ n ∈ crowdedRun, n.isCharacters = true)
    ∧ (∀ s, .cdata s ∈ crowdedRun → ¬sectionStop <:+: s.toList)
    ∧ chunksOf (printAll crowdedRun).reverse = (crowdedRun.splitBy joins).flatMap pieceItems
    ∧ ∀ s : String, Text.unescape (escapeText s) = s.toList := by
  have hrun : ∀ n ∈ crowdedRun, n.isCharacters = true := by decide
  have hbodies : ∀ s, .cdata s ∈ crowdedRun → ¬sectionStop <:+: s.toList := by
    intro s hs
    simp only [crowdedRun, List.mem_cons, Node.cdata.injEq, reduceCtorEq, false_or, List.not_mem_nil,
      or_false] at hs
    rcases hs with rfl | rfl | rfl <;> decide
  exact ⟨hrun, hbodies, chunksOf_printAll_reverse hrun hbodies⟩

example :
    chunksOf (printAll [.text "&lt;", .cdata "<![CDATA[", .cdata "", .text "]]>\r&notit;"]).reverse
      = [.text "&lt;", .cdata "<![CDATA[<![CDATA[]]>", .cdata "<![CDATA[]]>",
        .text "]]>\r&notit;"] := by
  decide +kernel

end TemplateLexer.Content
