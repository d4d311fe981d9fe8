import TemplateLexer.Proofs.ContentOrder
import TemplateLexer.Proofs.Embedded

set_option autoImplicit false

namespace TemplateLexer

open Markup

/-- A part of the markup inside an element, and what is left of it in an expression. -/
structure Stretch where
  markup : List Char
  value : List Char
  deriving DecidableEq, Repr

namespace Stretch

def verbatim (cs : List Char) : List Stretch := cs.map fun c => ⟨[c], [c]⟩

def ofText (s : String) : List Stretch := s.toList.map fun c => ⟨escapeTextChar c, [c]⟩

def ofSection (plain : Bool) (s : String) : List Stretch :=
  if plain then ⟨Content.sectionStart, []⟩ :: (verbatim s.toList ++ [⟨Content.sectionStop, []⟩])
  else [⟨printCdata s, printCdata s⟩]

def ofChild (m : Matcher) (left : String) : Node → List Stretch
  | .comment body => [⟨printComment body, (Content.commentMarkup m body).toList⟩]
  | .instruction target data => [⟨printInstruction target data,
      printInstruction target (if data == some "" then none else data)⟩]
  | .reference name => verbatim (printReference name)
  | n => [⟨n.print, left.toList⟩]

/-- Nodes, where `left` is what is left of the element with an index. In text that is `plain`, and
in what comes right after a child that `makesPlain`, sections are text too. -/
def ofNodes (m : Matcher) (left : Nat → String) (makesPlain : Nat → Bool) :
    (index : Nat) → (plain : Bool) → List Node → List Stretch
  | _, _, [] => []
  | index, plain, .text s :: rest => ofText s ++ ofNodes m left makesPlain index plain rest
  | index, plain, .cdata s :: rest =>
    ofSection plain s ++ ofNodes m left makesPlain index plain rest
  | index, _, n :: rest =>
    ofChild m (left index) n ++ ofNodes m left makesPlain (index + 1) (makesPlain index) rest

def AreFine (ss : List Stretch) : Prop := ∀ s ∈ ss, s.value.length ≤ 1

section Written

variable {m : Matcher} {left : Nat → String} {makesPlain : Nat → Bool} {n : Node}
  {nodes : List Node} {index : Nat} {plain : Bool}

theorem flatMap_verbatim (cs : List Char) : (verbatim cs).flatMap value = cs
    ∧ (verbatim cs).flatMap markup = cs := by
  simp [verbatim, List.flatMap_map]

theorem areFine_nil : AreFine [] := List.forall_mem_nil _

theorem areFine_verbatim (cs : List Char) : AreFine (verbatim cs) := by
  simp [AreFine, verbatim]

theorem value_ofText (s : String) : (ofText s).flatMap value = s.toList := by
  simp [ofText, List.flatMap_map]

theorem areFine_ofText (s : String) : AreFine (ofText s) := by
  simp [AreFine, ofText]

theorem value_ofSection_plain (s : String) : (ofSection true s).flatMap value = s.toList := by
  simp [ofSection, flatMap_verbatim]

theorem areFine_ofSection_plain (s : String) : AreFine (ofSection true s) := by
  rw [AreFine, ofSection, if_pos rfl, List.forall_mem_cons, List.forall_mem_append]
  exact ⟨Nat.zero_le _, areFine_verbatim _, by simp⟩

theorem AreFine.append {ss new : List Stretch} (h : AreFine ss) (hnew : AreFine new) :
    AreFine (ss ++ new) :=
  List.forall_mem_append.2 ⟨h, hnew⟩

theorem ofNodes_child (hn : n.isCharacters = false) :
    ofNodes m left makesPlain index plain (n :: nodes)
      = ofChild m (left index) n
        ++ ofNodes m left makesPlain (index + 1) (makesPlain index) nodes := by
  cases n with
  | text _ | cdata _ => cases hn
  | element _ _ | comment _ | instruction _ _ | reference _ => rw [ofNodes] <;> simp

theorem markup_ofNodes : (ofNodes m left makesPlain index plain nodes).flatMap markup
    = printAll nodes := by
  induction nodes generalizing index plain with
  | nil => rfl
  | cons n nodes ih =>
    rw [printAll]
    cases n with
    | text s =>
      rw [ofNodes, List.flatMap_append, ih, ofText, List.flatMap_map, Node.print, escapeText]
    | cdata s =>
      rw [ofNodes, List.flatMap_append, ih, Node.print, ofSection]
      cases plain <;> simp [flatMap_verbatim, Content.printCdata_eq]
    | element tag children =>
      rw [ofNodes_child rfl, List.flatMap_append, ih, ofChild, List.flatMap_singleton] <;> simp
    | comment _ | instruction _ _ =>
      rw [ofNodes_child rfl, List.flatMap_append, ih, ofChild, List.flatMap_singleton, Node.print]
    | reference name =>
      rw [ofNodes_child rfl, List.flatMap_append, ih, ofChild, (flatMap_verbatim _).2, Node.print]

end Written

end Stretch

/-- Tokens, newest first, that have what is left of stretches. Each of them begins where a stretch
begins that leaves something. -/
inductive Aligned : List ContentToken → List Stretch → Prop
  | nil {front : List Stretch} (empty : ∀ s ∈ front, s.value = []) : Aligned [] front
  | cons {t : ContentToken} {ts : List ContentToken} {front back : List Stretch} {s : Stretch}
      (before : Aligned ts front) (leaves : s.value ≠ [])
      (value : t.value.toList = (s :: back).flatMap Stretch.value) :
      Aligned (t :: ts) (front ++ s :: back)

namespace Aligned

variable {ts : List ContentToken} {ss new : List Stretch} {t : ContentToken} {c : SiteContent}

theorem flatMap_value (h : Aligned ts ss) :
    ts.reverse.flatMap (fun t => t.value.toList) = ss.flatMap Stretch.value := by
  induction h with
  | nil hempty => exact (List.flatMap_eq_nil_iff.2 hempty).symm
  | cons _ _ hvalue ih =>
    rw [List.reverse_cons, List.flatMap_append, ih, List.flatMap_singleton, hvalue,
      List.flatMap_append]

theorem append_empty (h : Aligned ts ss) (hnew : ∀ s ∈ new, s.value = []) :
    Aligned ts (ss ++ new) := by
  cases h with
  | nil hempty => exact .nil (List.forall_mem_append.2 ⟨hempty, hnew⟩)
  | @cons t ts front back s before leaves value =>
    rw [List.append_assoc, List.cons_append]
    refine .cons before leaves ?_
    rw [value, ← List.cons_append, List.flatMap_append, List.flatMap_eq_nil_iff.2 hnew,
      List.append_nil]

theorem exists_split (hvalue : new.flatMap Stretch.value ≠ []) :
    ∃ front s back, new = front ++ s :: back ∧ (∀ s ∈ front, s.value = []) ∧ s.value ≠ [] := by
  induction new with
  | nil => exact absurd rfl hvalue
  | cons s new ih =>
    by_cases hs : s.value = []
    · rw [List.flatMap_cons, hs, List.nil_append] at hvalue
      obtain ⟨front, s', back, rfl, hfront, hs'⟩ := ih hvalue
      exact ⟨s :: front, s', back, rfl, List.forall_mem_cons.2 ⟨hs, hfront⟩, hs'⟩
    · exact ⟨[], s, new, rfl, by simp, hs⟩

theorem addToken (h : Aligned ts ss) (ht : t.value ≠ "")
    (hvalue : new.flatMap Stretch.value = t.value.toList) :
    Aligned (SiteContent.addToken t ts) (ss ++ new) := by
  have hcomes : Aligned (t :: ts) (ss ++ new) := by
    have hne : new.flatMap Stretch.value ≠ [] := by simpa [hvalue] using ht
    obtain ⟨front, s, back, rfl, hfront, hs⟩ := exists_split hne
    rw [← List.append_assoc]
    refine .cons (h.append_empty hfront) hs ?_
    rw [← hvalue, List.flatMap_append, List.flatMap_eq_nil_iff.2 hfront, List.nil_append]
  cases h with
  | nil _ => exact hcomes
  | @cons last rest front back s before leaves value =>
    rw [SiteContent.addToken]
    split
    · rw [List.append_assoc, List.cons_append]
      refine .cons before leaves ?_
      rw [String.toList_append, value, ← hvalue, ← List.flatMap_append, List.cons_append]
    · exact hcomes

theorem exists_parts (hfine : Stretch.AreFine new) {xs ys : List Char}
    (hvalue : new.flatMap Stretch.value = xs ++ ys) :
    ∃ first second, new = first ++ second ∧ first.flatMap Stretch.value = xs
      ∧ second.flatMap Stretch.value = ys := by
  induction new generalizing xs with
  | nil =>
    obtain ⟨rfl, rfl⟩ := List.append_eq_nil_iff.1 hvalue.symm
    exact ⟨[], [], rfl, rfl, rfl⟩
  | cons s new ih =>
    obtain ⟨hs, hnew⟩ := List.forall_mem_cons.1 hfine
    cases xs with
    | nil => exact ⟨[], s :: new, rfl, rfl, hvalue⟩
    | cons x xs =>
      rw [List.flatMap_cons] at hvalue
      rcases hleft : s.value with _ | ⟨y, _ | ⟨z, more⟩⟩
      · rw [hleft, List.nil_append] at hvalue
        obtain ⟨first, second, rfl, hfirst, hsecond⟩ := ih hnew hvalue
        exact ⟨s :: first, second, rfl, by rw [List.flatMap_cons, hleft, hfirst]; rfl, hsecond⟩
      · rw [hleft, List.singleton_append, List.cons_append] at hvalue
        obtain ⟨rfl, hrest⟩ := List.cons.inj hvalue
        obtain ⟨first, second, rfl, hfirst, hsecond⟩ := ih hnew hrest
        exact ⟨s :: first, second, rfl, by rw [List.flatMap_cons, hleft, hfirst]; rfl, hsecond⟩
      · rw [hleft] at hs
        simp at hs

theorem addRuns {ps : List Piece} (h : Aligned ts ss) (scanner : Scanner)
    (hps : ∀ p ∈ ps, p.IsSound) (hfine : Stretch.AreFine new)
    (hvalue : new.flatMap Stretch.value = ps.flatMap Piece.text) :
    Aligned ((scanner.runs ps).1.foldl
      (fun ts r => SiteContent.addToken ⟨r.kind.tokenKind, r.line, r.value⟩ ts) ts)
      (ss ++ new) := by
  induction ps generalizing ts ss new scanner with
  | nil => exact h.append_empty (List.flatMap_eq_nil_iff.1 hvalue)
  | cons p ps ih =>
    obtain ⟨hp, hps⟩ := List.forall_mem_cons.1 hps
    obtain ⟨first, second, rfl, hfirst, hsecond⟩ := exists_parts hfine hvalue
    have hadded : Aligned (SiteContent.addToken
        ⟨p.kind.tokenKind, scanner.line, String.ofList p.text⟩ ts) (ss ++ first) :=
      h.addToken (by simpa using hp.nonempty) (by simpa using hfirst)
    rw [Scanner.runs, ← List.append_assoc]
    exact ih hadded _ hps (List.forall_mem_append.1 hfine).2 hsecond

theorem addText (h : Aligned c.tokens ss) (hfine : Stretch.AreFine new) {s : String}
    (hvalue : new.flatMap Stretch.value = s.toList) : Aligned (c.addText s).tokens (ss ++ new) :=
  h.addRuns c.scanner (Piece.isSound_split s.toList) hfine
    (hvalue.trans (Piece.flatMap_split s.toList).symm)

theorem addMarkup (h : Aligned c.tokens ss) (kind : TokenKind) {markup : String}
    (hmarkup : markup ≠ "") (written : List Char) :
    Aligned (c.addMarkup kind markup).tokens (ss ++ [⟨written, markup.toList⟩]) :=
  h.addToken hmarkup (List.append_nil _)

theorem exists_start (h : Aligned ts ss) {before after : List ContentToken}
    (hts : ts.reverse = before ++ t :: after) :
    ∃ front s back, ss = front ++ s :: back ∧ s.value ≠ []
      ∧ front.flatMap Stretch.value = before.flatMap fun u => u.value.toList := by
  induction h generalizing after with
  | nil _ => simp at hts
  | @cons u rest front back s hbefore hleaves hvalue ih =>
    rw [List.reverse_cons] at hts
    rcases List.eq_nil_or_concat after with rfl | ⟨after, v, rfl⟩
    · obtain ⟨hrest, -⟩ := List.append_inj' hts rfl
      exact ⟨front, s, back, rfl, hleaves, by rw [← hrest, hbefore.flatMap_value]⟩
    · have hlast : rest.reverse ++ [u] = (before ++ t :: after) ++ [v] := by simpa using hts
      obtain ⟨front', s', back', rfl, hs', hfront'⟩ := ih (List.append_inj' hlast rfl).1
      exact ⟨front', s', back' ++ s :: back, by simp, hs', hfront'⟩

end Aligned

end TemplateLexer
