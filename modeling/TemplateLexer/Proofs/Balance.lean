import TemplateLexer.Proofs.Embedded
import TemplateLexer.Proofs.ScannerCalls

set_option autoImplicit false

namespace TemplateLexer

open Markup

namespace RunKind

def ofTexts (texts : List String) : List RunKind :=
  texts.flatMap fun s => (Piece.split s.toList).map Piece.kind

theorem depth_append (xs ys : List RunKind) :
    depth (xs ++ ys) = ys.foldl Scanner.level (depth xs) :=
  List.foldl_append

end RunKind

def TokenKind.runKind : TokenKind → RunKind
  | .expressionOpen => .opens
  | .expressionClose => .closes
  | _ => .characters

theorem RunKind.level_tokenKind (d : Nat) (k : RunKind) :
    Scanner.level d k.tokenKind.runKind = Scanner.level d k := by
  cases k <;> rfl

/-- Whether every opening delimiter in the content of a site has a closing one of its own, further
on. -/
def SiteFields.IsClosed (f : SiteFields) : Prop :=
  ∃ g, RunKind.IsMatching (f.content.map fun t => t.kind.runKind) g

namespace Content

def Item.scanned? (children : List Node) : Item → Option String
  | .text s => some s
  | .cdata _ => none
  | .child index =>
    match (Markup.items children)[index]? with
    | some (.reference name) => some (String.ofList (printReference name))
    | _ => none

def scannedTexts (e : Element) : List String := (items e).filterMap (Item.scanned? e.children)

theorem scannedTexts_congr {e e' : Element} (h : e.children = e'.children) :
    scannedTexts e = scannedTexts e' := by
  rw [scannedTexts, scannedTexts, items, items, h]

end Content

namespace SiteContent

/-- What was scanned so far, and the tokens that came of it, are as deep as some runs. -/
structure IsCounted (c : SiteContent) (ks : List RunKind) : Prop where
  scanner : c.scanner.depth = RunKind.depth ks
  tokens : RunKind.depth (c.tokens.reverse.map fun t => t.kind.runKind) = RunKind.depth ks

variable {c : SiteContent} {ks : List RunKind}

theorem isCounted_start (n : Nat) : (start n).IsCounted [] := ⟨rfl, rfl⟩

theorem depth_addToken (t : ContentToken) (ts : List ContentToken) :
    RunKind.depth ((addToken t ts).reverse.map fun t => t.kind.runKind)
      = Scanner.level (RunKind.depth (ts.reverse.map fun t => t.kind.runKind))
          t.kind.runKind := by
  cases ts with
  | nil => rfl
  | cons last rest =>
    rw [addToken]
    split
    · rename_i hchars
      rw [hchars.1, List.reverse_cons, List.reverse_cons, List.map_append, List.map_append]
      rfl
    · rw [List.reverse_cons (a := t), List.map_append, RunKind.depth_append]
      rfl

theorem depth_foldl_addToken (runs : List Run) (ts : List ContentToken) :
    RunKind.depth ((runs.foldl (fun ts r => addToken ⟨r.kind.tokenKind, r.line, r.value⟩ ts)
        ts).reverse.map fun t => t.kind.runKind)
      = (runs.map Run.kind).foldl Scanner.level
          (RunKind.depth (ts.reverse.map fun t => t.kind.runKind)) := by
  induction runs generalizing ts with
  | nil => rfl
  | cons r runs ih =>
    rw [List.foldl_cons, ih, depth_addToken, RunKind.level_tokenKind, List.map_cons,
      List.foldl_cons]

theorem IsCounted.addText (h : c.IsCounted ks) (s : String) :
    (c.addText s).IsCounted (ks ++ RunKind.ofTexts [s]) := by
  have hkinds : (c.scanner.runs (Piece.split s.toList)).1.map Run.kind = RunKind.ofTexts [s] := by
    have hpieces := congrArg (List.map Piece.kind)
      (Scanner.map_piece_runs c.scanner (Piece.split s.toList))
    rw [List.map_map] at hpieces
    rw [RunKind.ofTexts, List.flatMap_singleton]
    exact hpieces
  have hscanner : (c.addText s).scanner.depth
      = (RunKind.ofTexts [s]).foldl Scanner.level c.scanner.depth := by
    rw [← hkinds]
    exact congrArg Scanner.depth (Scanner.snd_runs c.scanner (Piece.split s.toList))
  refine ⟨?_, ?_⟩
  · rw [hscanner, RunKind.depth_append, h.scanner]
  · rw [RunKind.depth_append, ← h.tokens, ← hkinds]
    exact depth_foldl_addToken _ _

theorem IsCounted.addMarkup (h : c.IsCounted ks) {kind : TokenKind}
    (hkind : kind.runKind = .characters) (markup : String) :
    (c.addMarkup kind markup).IsCounted ks := by
  refine ⟨h.scanner, ?_⟩
  have hadded := depth_addToken ⟨kind, c.scanner.line, markup⟩ c.tokens
  rw [hkind] at hadded
  exact hadded.trans h.tokens

theorem IsCounted.isMatching_iff (h : c.IsCounted ks) :
    c.scanner.depth = 0 ↔ ∃ g, RunKind.IsMatching ks g := by
  rw [h.scanner, RunKind.depth_eq_zero_iff_exists]

theorem IsCounted.isClosed (h : c.IsCounted ks) (hdepth : c.scanner.depth = 0) {f : SiteFields}
    (hf : f.content = c.tokens.reverse) : f.IsClosed := by
  rw [SiteFields.IsClosed, ← RunKind.depth_eq_zero_iff_exists, hf, h.tokens, ← h.scanner, hdepth]

end SiteContent

namespace Working

variable {p : Pass} {owner : Place} {w w' : Work} {c c' : SiteContent} {ks : List RunKind}

theorem addItem_isCounted {item : Content.Item} (hc : c.IsCounted ks)
    (h : addItem p owner c item w = .ok (c', w')) :
    c'.IsCounted (ks ++ RunKind.ofTexts (item.scanned? owner.element.children).toList) := by
  have hnone : ∀ {c : SiteContent}, c.IsCounted ks → c.IsCounted (ks ++ RunKind.ofTexts []) :=
    fun hc => by rwa [RunKind.ofTexts, List.flatMap_nil, List.append_nil]
  cases (adds_of_addItem h).2 with
  | text s => exact hc.addText s
  | cdata markup => exact hnone (hc.addMarkup rfl markup)
  | directive item _ =>
    rw [Content.Item.scanned?, item]
    exact hnone hc
  | comment item _ | instruction item | element item _ =>
    rw [Content.Item.scanned?, item]
    exact hnone (hc.addMarkup rfl _)
  | reference item =>
    rw [Content.Item.scanned?, item]
    exact hc.addText _

theorem addItems_isCounted {items : List Content.Item} (hc : c.IsCounted ks)
    (h : items.foldlM (addItem p owner) c w = .ok (c', w')) :
    c'.IsCounted (ks ++ RunKind.ofTexts
      (items.filterMap (Content.Item.scanned? owner.element.children))) := by
  induction items generalizing c ks with
  | nil =>
    obtain ⟨rfl, -⟩ := pure_ok h
    rwa [List.filterMap_nil, RunKind.ofTexts, List.flatMap_nil, List.append_nil]
  | cons item items ih =>
    rw [List.foldlM_cons] at h
    obtain ⟨next, mid, hitem, hrest⟩ := bind_ok h
    obtain rfl := (reads_addItem p owner c item).eq hitem
    have hall := ih (addItem_isCounted hc hitem) hrest
    cases hscanned : item.scanned? owner.element.children with
    | none =>
      rw [hscanned, Option.toList_none, RunKind.ofTexts, List.flatMap_nil, List.append_nil] at hall
      rwa [List.filterMap_cons_none hscanned]
    | some s =>
      rw [hscanned, Option.toList_some, List.append_assoc, RunKind.ofTexts, RunKind.ofTexts,
        ← List.flatMap_append, List.singleton_append] at hall
      rwa [List.filterMap_cons_some hscanned]

end Working

end TemplateLexer
