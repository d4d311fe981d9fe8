import TemplateLexer.Proofs.Origins
import TemplateLexer.Record.Display
/-!
Nothing of an expression site is lost in its content. Text is split and joined, and markup goes
between, but the pieces make up the source, and every piece knows the line on which it begins.
-/

set_option autoImplicit false

namespace TemplateLexer

open Markup

def contentKinds : List TokenKind :=
  [.expressionOpen, .expressionClose, .expressionChars, .expressionElement, .expressionComment,
    .expressionCdata, .expressionInstruction]

/-- A piece as a site may hold it. -/
structure ContentToken.IsSound (t : ContentToken) : Prop where
  kind : t.kind ∈ contentKinds
  nonempty : t.value ≠ ""
  opens : t.kind = .expressionOpen → t.value = "\x7b%"
  closes : t.kind = .expressionClose → t.value = "%\x7d"

/-- Whether two pieces have to be one. -/
def ContentToken.Joins (t u : ContentToken) : Prop :=
  t.kind = .expressionChars ∧ u.kind = .expressionChars

/-- A site whose pieces make up its source, from a line on. -/
structure SiteFields.IsLossless (line : Int) (f : SiteFields) : Prop where
  nonempty : f.content ≠ []
  sound : ∀ t ∈ f.content, t.IsSound
  source : String.join (f.content.map ContentToken.value) = f.source
  apart : f.content.IsChain fun t u => ¬t.Joins u
  lines : ∀ before t after, f.content = before ++ t :: after →
    t.line = line + ((before.map fun u => lineBreaks u.value.toList).sum : Nat)

/-- Pieces, newest first, that make up a text from a line on. -/
inductive Spells (line : Int) : List ContentToken → List Char → Prop
  | nil : Spells line [] []
  | cons {t : ContentToken} {ts : List ContentToken} {cs : List Char} (before : Spells line ts cs)
      (sound : t.IsSound) (start : t.line = line + lineBreaks cs)
      (apart : ∀ u ∈ ts.head?, ¬u.Joins t) : Spells line (t :: ts) (cs ++ t.value.toList)

section Pieces

/-- A piece of text that is not empty, and a delimiter if it is said to be one. -/
structure Piece.IsSound (p : Piece) : Prop where
  nonempty : p.text ≠ []
  opens : p.kind = .opens → p.text = ['{', '%']
  closes : p.kind = .closes → p.text = ['%', '}']

theorem Piece.isSound_leading {cs rest : List Char} {p : Piece}
    (h : leading cs = some (p, rest)) : p.IsSound := by
  refine ⟨leading_ne_nil h, ?_, ?_⟩ <;> intro hkind <;> unfold leading at h <;> split at h
  all_goals
    simp only [Option.map_eq_some_iff, Option.some.injEq, Prod.mk.injEq, reduceCtorEq] at h
  all_goals first
    | rw [← h.1]
    | (obtain ⟨_, -, rfl, -⟩ := h; cases hkind)
  all_goals
    rw [← h.1] at hkind
    cases hkind

theorem Piece.isSound_plain {c : Char} {ps : List Piece} (h : ∀ p ∈ ps, p.IsSound) :
    ∀ p ∈ plain c ps, p.IsSound := by
  have hchars : ∀ text, (⟨.characters, c :: text⟩ : Piece).IsSound := fun _ =>
    ⟨List.cons_ne_nil _ _, nofun, nofun⟩
  intro p hp
  unfold plain at hp
  split at hp
  · rcases List.mem_cons.1 hp with rfl | hp
    · exact hchars _
    · exact h p (List.mem_cons_of_mem _ hp)
  · rcases List.mem_cons.1 hp with rfl | hp
    · exact hchars _
    · exact h p hp

theorem Piece.isSound_split (cs : List Char) : ∀ p ∈ split cs, p.IsSound := by
  fun_induction split cs with
  | case1 => simp
  | case2 c cs p rest h ih => exact List.forall_mem_cons.2 ⟨isSound_leading h, ih⟩
  | case3 c cs h ih => exact isSound_plain ih

end Pieces

section Spelling

variable {line : Int} {ts : List ContentToken} {cs : List Char} {t : ContentToken} {c : SiteContent}

theorem Spells.addToken (h : Spells line ts cs) (ht : t.IsSound)
    (hline : t.line = line + lineBreaks cs) :
    Spells line (SiteContent.addToken t ts) (cs ++ t.value.toList) := by
  cases h with
  | nil => exact .cons .nil ht hline (by simp)
  | @cons last rest cs before hlast hstart hrest =>
    rw [SiteContent.addToken]
    split
    · rename_i hchars
      have hjoined : ({ last with value := last.value ++ t.value } : ContentToken).IsSound := by
        refine ⟨hlast.kind, ?_, ?_, ?_⟩
        · simp [hlast.nonempty]
        · simp [hchars.2]
        · simp [hchars.2]
      have hcons := Spells.cons before hjoined hstart fun u hu hjoins => hrest u hu hjoins
      rwa [String.toList_append, ← List.append_assoc] at hcons
    · rename_i hchars
      refine .cons (.cons before hlast hstart hrest) ht hline fun u hu hjoins => hchars ?_
      cases hu
      exact ⟨hjoins.2, hjoins.1⟩

theorem RunKind.mem_contentKinds (k : RunKind) : k.tokenKind ∈ contentKinds := by
  cases k <;> decide

theorem Piece.IsSound.token {p : Piece} (h : p.IsSound) (n : Int) :
    (⟨p.kind.tokenKind, n, String.ofList p.text⟩ : ContentToken).IsSound := by
  refine ⟨p.kind.mem_contentKinds, by simpa using h.nonempty, fun hkind => ?_, fun hkind => ?_⟩
  · cases hp : p.kind <;> simp [hp, RunKind.tokenKind] at hkind
    exact congrArg String.ofList (h.opens hp)
  · cases hp : p.kind <;> simp [hp, RunKind.tokenKind] at hkind
    exact congrArg String.ofList (h.closes hp)

theorem Spells.addRuns {ps : List Piece} (h : Spells line ts cs) {scanner : Scanner}
    (hscanner : scanner.line = line + lineBreaks cs) (hps : ∀ p ∈ ps, p.IsSound) :
    Spells line ((scanner.runs ps).1.foldl
        (fun ts r => SiteContent.addToken ⟨r.kind.tokenKind, r.line, r.value⟩ ts) ts)
        (cs ++ ps.flatMap Piece.text)
      ∧ (scanner.runs ps).2.line = line + lineBreaks (cs ++ ps.flatMap Piece.text) := by
  induction ps generalizing ts cs scanner with
  | nil => simpa [Scanner.runs] using ⟨h, hscanner⟩
  | cons p ps ih =>
    obtain ⟨hp, hps⟩ := List.forall_mem_cons.1 hps
    have hnext : (scanner.pass p).line = line + lineBreaks (cs ++ p.text) := by
      rw [Scanner.pass, hscanner, lineBreaks_append]
      push_cast
      ring
    have hadded := h.addToken (hp.token scanner.line) hscanner
    rw [String.toList_ofList] at hadded
    rw [Scanner.runs, List.flatMap_cons, ← List.append_assoc]
    exact ih hadded hnext hps

/-- The content of a site whose pieces make up its source. -/
structure SiteContent.IsLossless (line : Int) (c : SiteContent) : Prop where
  tokens : Spells line c.tokens c.source.toList
  scanner : c.scanner.line = line + lineBreaks c.source.toList

namespace SiteContent

theorem isLossless_start (n : Nat) : (start n).IsLossless n := ⟨.nil, by simp [start, Scanner.start,
  lineBreaks]⟩

theorem IsLossless.addText (h : c.IsLossless line) (s : String) :
    (c.addText s).IsLossless line := by
  have hall := h.tokens.addRuns h.scanner (Piece.isSound_split s.toList)
  rw [Piece.flatMap_split, ← String.toList_append] at hall
  exact ⟨hall.1, hall.2⟩

theorem IsLossless.addMarkup (h : c.IsLossless line) {kind : TokenKind} {markup : String}
    (hkind : kind ∈ contentKinds) (hopens : kind ≠ .expressionOpen)
    (hcloses : kind ≠ .expressionClose) (hmarkup : markup ≠ "") :
    (c.addMarkup kind markup).IsLossless line := by
  have hsound : (⟨kind, c.scanner.line, markup⟩ : ContentToken).IsSound :=
    ⟨hkind, hmarkup, fun he => absurd he hopens, fun he => absurd he hcloses⟩
  refine ⟨?_, ?_⟩
  · have hadded := h.tokens.addToken hsound h.scanner
    rwa [← String.toList_append] at hadded
  · rw [SiteContent.addMarkup, Scanner.advance, String.toList_append, lineBreaks_append]
    simp only [h.scanner]
    push_cast
    ring

end SiteContent

namespace Spells

theorem sound (h : Spells line ts cs) : ∀ t ∈ ts, t.IsSound := by
  induction h with
  | nil => simp
  | cons _ ht _ _ ih => exact List.forall_mem_cons.2 ⟨ht, ih⟩

theorem flatMap_reverse (h : Spells line ts cs) :
    ts.reverse.flatMap (fun t => t.value.toList) = cs := by
  induction h with
  | nil => rfl
  | cons _ _ _ _ ih => simp [ih]

theorem apart (h : Spells line ts cs) : ts.reverse.IsChain fun t u => ¬t.Joins u := by
  rw [List.isChain_reverse]
  induction h with
  | nil => exact .nil
  | cons _ _ _ hnext ih => exact List.isChain_cons.2 ⟨hnext, ih⟩

theorem lineBreaks_eq (h : Spells line ts cs) :
    lineBreaks cs = (ts.map fun u => lineBreaks u.value.toList).sum := by
  induction h with
  | nil => rfl
  | cons _ _ _ _ ih => rw [lineBreaks_append, ih, List.map_cons, List.sum_cons, Nat.add_comm]

/-- A piece begins on the line to which the pieces before it lead. -/
theorem lines (h : Spells line ts cs) {before after : List ContentToken}
    (hts : ts.reverse = before ++ t :: after) :
    t.line = line + ((before.map fun u => lineBreaks u.value.toList).sum : Nat) := by
  induction h generalizing after with
  | nil => simp at hts
  | @cons u rest cs hrest _ hstart _ ih =>
    rw [List.reverse_cons] at hts
    rcases List.eq_nil_or_concat after with rfl | ⟨after, v, rfl⟩
    · obtain ⟨hbefore, hu⟩ := List.append_inj' hts rfl
      obtain rfl := List.head_eq_of_cons_eq hu
      rw [hstart, hrest.lineBreaks_eq, ← hbefore, List.map_reverse, List.sum_reverse]
    · have hlast : rest.reverse ++ [u] = (before ++ t :: after) ++ [v] := by simpa using hts
      exact ih (List.append_inj' hlast rfl).1

end Spells

/-- A site that is told by a lossless content, unless there was nothing. -/
theorem SiteContent.IsLossless.fields (h : c.IsLossless line) (hsource : c.source ≠ "")
    {f : SiteFields} (hf : f.source = c.source) (hcontent : f.content = c.tokens.reverse) :
    f.IsLossless line := by
  have hall := h.tokens.flatMap_reverse
  refine ⟨fun hnil => hsource ?_, fun t ht => ?_, ?_, ?_, fun before t after hsplit => ?_⟩
  · rw [← hcontent, hnil] at hall
    simpa using hall.symm
  · rw [hcontent, List.mem_reverse] at ht
    exact h.tokens.sound t ht
  · rw [← String.toList_inj, String.toList_join, List.flatMap_map, hcontent, hf]
    exact hall
  · rw [hcontent]
    exact h.tokens.apart
  · exact h.tokens.lines (hcontent ▸ hsplit)

end Spelling

namespace Content

def Item.Speaks : Item → Prop
  | .text s => s ≠ ""
  | .cdata markup => markup ≠ ""
  | .child _ => False

section Speaking

variable {cs done rest : List Char} {item : Item} {nodes : List Node}

theorem ofList_ne_empty {front : List Char} (h : front <+: cs) (hfront : front ≠ []) :
    String.ofList cs ≠ "" := by
  intro he
  have hnil : cs = [] := by simpa using congrArg String.toList he
  rw [hnil, List.prefix_nil] at h
  exact hfront h

theorem starts_section {s : List Char} (h : section? cs = some (s, rest)) :
    sectionStart <+: s := by
  rw [section?] at h
  split at h
  · obtain ⟨⟨body, more⟩, -, he⟩ := Option.map_eq_some_iff.1 h
    simp only [Prod.mk.injEq] at he
    exact he.1 ▸ List.prefix_append ..
  · cases h

theorem speaks_of_section {s : List Char} (h : section? cs = some (s, rest)) :
    (Item.cdata (String.ofList s)).Speaks :=
  ofList_ne_empty (starts_section h) (by simp [sectionStart_eq])

theorem cdata_mem_plainItem {m : String} (h : .cdata m ∈ plainItem done) : m ≠ "" := by
  rw [plainItem] at h
  split at h
  · cases h
  · split at h
    · rename_i hstart
      cases List.mem_singleton.1 h
      exact ofList_ne_empty (List.isPrefixOf_iff_prefix.1 hstart)
        (by simp [sectionStart_eq])
    · cases List.mem_singleton.1 h

theorem cdata_mem_chunks {m : String} {fuel : Nat} (h : .cdata m ∈ chunks fuel done cs) :
    m ≠ "" := by
  fun_induction chunks fuel done cs with
  | case1 => exact cdata_mem_plainItem h
  | case2 => exact cdata_mem_plainItem h
  | case3 done fuel c cs s rest hsection ih =>
    rcases List.mem_append.1 h with h | h
    · exact cdata_mem_plainItem h
    · rcases List.mem_cons.1 h with h | h
      · cases h
        exact speaks_of_section hsection
      · exact ih h
  | case4 done fuel c cs hnone ih => exact ih h

theorem cdata_mem_itemsFrom {m : String} {fuel : Nat} (h : .cdata m ∈ itemsFrom fuel done cs) :
    m ≠ "" := by
  fun_induction itemsFrom fuel done cs with
  | case1 => exact cdata_mem_chunks h
  | case2 => exact cdata_mem_chunks h
  | case3 done fuel c cs index rest hstand ih =>
    rcases List.mem_append.1 h with h | h
    · exact cdata_mem_chunks h
    · rcases List.mem_cons.1 h with h | h
      · cases h
      · exact ih h
  | case4 done fuel c cs hnone ih => exact ih h

def IsHeard (cs : List Char) : Prop :=
  ∃ more, cs = sectionStart ++ more ∨ ∃ c, cs = escapeTextChar c ++ more

theorem IsHeard.append (h : IsHeard cs) (rest : List Char) : IsHeard (cs ++ rest) := by
  obtain ⟨more, rfl | ⟨c, rfl⟩⟩ := h
  · exact ⟨more ++ rest, .inl (by simp)⟩
  · exact ⟨more ++ rest, .inr ⟨c, by simp⟩⟩

theorem isHeard_escapeText {s : String} (h : s ≠ "") : IsHeard (escapeText s) := by
  cases hs : s.toList with
  | nil => exact absurd (String.toList_eq_nil_iff.1 hs) h
  | cons c more => exact ⟨_, .inr ⟨c, by rw [escapeText, hs, List.flatMap_cons]⟩⟩

theorem speaks_plainItem (h : IsHeard done.reverse) : ∃ item ∈ plainItem done, item.Speaks := by
  have hne : done.reverse.isEmpty = false := by
    obtain ⟨more, hcs | ⟨c, hcs⟩⟩ := h
    · simp [hcs, sectionStart_eq]
    · have hlen := length_le_escapeTextChar c
      rw [hcs, List.isEmpty_eq_false_iff]
      exact List.append_ne_nil_of_left_ne_nil (List.length_pos_iff.1 hlen) _
  rw [plainItem]
  simp only [hne, Bool.false_eq_true, if_false]
  split
  · rename_i hstart
    exact ⟨_, List.mem_singleton.2 rfl, ofList_ne_empty
      (List.isPrefixOf_iff_prefix.1 hstart) (by simp [sectionStart_eq])⟩
  · rename_i hstart
    refine ⟨_, List.mem_singleton.2 rfl, ?_⟩
    obtain ⟨more, hcs | ⟨c, hcs⟩⟩ := h
    · exact absurd (List.isPrefixOf_iff_prefix.2 ⟨more, hcs.symm⟩) hstart
    · have hlen := length_le_escapeTextChar c
      obtain ⟨fuel, hfuel⟩ : ∃ n, (escapeTextChar c ++ more).length = n + 1 :=
        ⟨(escapeTextChar c ++ more).length - 1, by rw [List.length_append]; omega⟩
      rw [hcs, Text.unescape, hfuel, unescapeFrom_escapeTextChar]
      exact ofList_ne_empty (List.prefix_append [c] _) (List.cons_ne_nil _ _)

theorem speaks_chunks {fuel : Nat} (hfuel : cs.length < fuel) (h : IsHeard (done.reverse ++ cs)) :
    ∃ item ∈ chunks fuel done cs, item.Speaks := by
  fun_induction chunks fuel done cs with
  | case1 => cases hfuel
  | case2 => exact speaks_plainItem (by simpa using h)
  | case3 done fuel c cs s rest hsection ih =>
    exact ⟨_, List.mem_append_right _ (List.mem_cons_self ..), speaks_of_section hsection⟩
  | case4 done fuel c cs hnone ih =>
    exact ih (by simpa using hfuel) (by simpa using h)

theorem speaks_itemsFrom {fuel : Nat} (h : IsHeard done.reverse) :
    ∃ item ∈ itemsFrom fuel done cs, item.Speaks := by
  have hchunks : ∀ done : List Char, IsHeard done.reverse → ∃ item ∈ chunksOf done, item.Speaks :=
    fun done hdone => speaks_chunks (Nat.lt_succ_self _) (by simpa using hdone)
  fun_induction itemsFrom fuel done cs with
  | case1 => exact hchunks _ h
  | case2 => exact hchunks _ h
  | case3 done fuel c cs index rest hstand ih =>
    obtain ⟨item, hitem, hspeaks⟩ := hchunks _ h
    exact ⟨item, List.mem_append_left _ hitem, hspeaks⟩
  | case4 done fuel c cs hnone ih =>
    rw [List.reverse_cons] at ih
    exact ih (h.append _)

/-- Text is heard in the items of nodes, whatever comes before and after it: children before it read
back, and its first character is found. -/
theorem exists_speaks (hplain : ∀ n ∈ nodes, n.IsPlain)
    (htext : ∃ n ∈ nodes, n.isCharacters = true ∧ n.characters ≠ "") (index : Nat) {fuel : Nat}
    (hfuel : (printWithStandIns index nodes).length < fuel) :
    ∃ item ∈ itemsFrom fuel [] (printWithStandIns index nodes), item.Speaks := by
  induction nodes generalizing index fuel with
  | nil => simp at htext
  | cons n rest ih =>
    obtain ⟨hn, hrest⟩ := List.forall_mem_cons.1 hplain
    rw [printWithStandIns] at hfuel ⊢
    cases hc : n.isCharacters with
    | true =>
      rw [hc, if_pos rfl, List.length_append] at hfuel
      rw [if_pos rfl]
      cases n with
      | text s =>
        rw [Node.print] at hfuel ⊢
        -- An empty text leaves it to what follows to be heard.
        by_cases hs : s = ""
        · subst hs
          have hlater : ∃ n ∈ rest, n.isCharacters = true ∧ n.characters ≠ "" := by
            simpa [Node.characters] using htext
          exact ih hrest hlater index (by omega)
        · obtain ⟨k, rfl⟩ : ∃ k, fuel = k + (escapeText s).length :=
            ⟨fuel - (escapeText s).length, by omega⟩
          rw [itemsFrom_silent (silent_escapeText s)]
          exact speaks_itemsFrom (by simpa using isHeard_escapeText hs)
      | cdata s =>
        rw [Node.print, printCdata_eq] at hfuel ⊢
        rw [List.length_append] at hfuel
        obtain ⟨k, rfl⟩ : ∃ k, fuel = k + sectionStart.length :=
          ⟨fuel - sectionStart.length, by omega⟩
        rw [List.append_assoc, itemsFrom_silent silent_sectionStart]
        exact speaks_itemsFrom ⟨[], .inl (by simp)⟩
      | element _ _ | comment _ | instruction _ _ | reference _ => cases hc
    | false =>
      have hlater : ∃ n ∈ rest, n.isCharacters = true ∧ n.characters ≠ "" := by
        simpa [hc] using htext
      rw [hc, if_neg (by simp), List.length_append] at hfuel
      rw [if_neg (by simp)]
      have hread : ∀ after, standIn? (printStandIn index n ++ after)
          = some (standInNumber index n, after) := standIn?_printStandIn hc hn
      obtain ⟨c, more, hcons⟩ := exists_cons_of_standIn? (hread [])
      rw [List.append_nil] at hcons
      replace hread := hread (printWithStandIns (index + 1) rest)
      obtain ⟨fuel, rfl⟩ : ∃ k, fuel = k + 1 := ⟨fuel - 1, by omega⟩
      rw [hcons, List.length_cons] at hfuel
      obtain ⟨item, hitem, hspeaks⟩ := @ih hrest hlater (index + 1) fuel (by omega)
      rw [hcons, List.cons_append] at hread ⊢
      rw [itemsFrom, hread]
      exact ⟨item, List.mem_append_right _ (List.mem_cons_of_mem _ hitem), hspeaks⟩

end Speaking

end Content

namespace Working

variable {p : Pass} {owner place : Place} {w w' : Work} {line : Int}

theorem print_ne_empty (e : Element) : e.print ≠ "" := by
  have hstarts : ['<'] <+: e.node.print := by
    rw [Element.node, Node.print]
    split <;> exact ⟨_, rfl⟩
  exact Content.ofList_ne_empty hstarts (List.cons_ne_nil _ _)

theorem markupIn_ne_empty (hypertext : Bool) (e : Element) : e.markupIn hypertext ≠ "" := by
  cases hypertext with
  | false => exact print_ne_empty e
  | true =>
    have hstarts : ['<'] <+: Hypertext.print [] none (Hypertext.fill [] e.node) := by
      rw [Element.node, Hypertext.fill, Hypertext.print_part]
      split <;> exact ⟨_, rfl⟩
    exact Content.ofList_ne_empty hstarts (List.cons_ne_nil _ _)

/-- The markup of an element inside a site: what was kept for a placeholder, and otherwise the
element. -/
theorem embedded_ok {e : Element} {markup : String}
    (h : embedded p owner e w = .ok (markup, w')) :
    if p.policy.isPlaceholder e.tag then
      ∃ node, w.intact.lookup (e.tag.id?.getD "") = some node ∧ markup = node.print
    else markup = (e.alone owner.tags).markupIn p.hypertext := by
  rw [embedded] at h
  split
  · rename_i hplaceholder
    rw [if_pos hplaceholder] at h
    obtain ⟨v, mid, hget, hrest⟩ := bind_ok h
    obtain ⟨rfl, rfl⟩ := get_ok hget
    cases hlookup : mid.intact.lookup (e.tag.id?.getD "") with
    | none =>
      simp only [hlookup] at hrest
      exact (fail_ok hrest).elim
    | some node =>
      simp only [hlookup] at hrest
      exact ⟨node, rfl, (pure_ok hrest).1⟩
  · rename_i hplaceholder
    rw [if_neg hplaceholder] at h
    exact (pure_ok h).1

theorem embedded_ne_empty {e : Element} {markup : String}
    (h : embedded p owner e w = .ok (markup, w')) : markup ≠ "" := by
  have hmarkup := embedded_ok h
  split at hmarkup
  · obtain ⟨node, -, rfl⟩ := hmarkup
    exact print_ne_empty node
  · exact hmarkup ▸ markupIn_ne_empty _ _

/-- What an item adds to a site: its pieces go on with the source, which it makes longer if it
speaks. -/
theorem addItem_isLossless {c c' : SiteContent} {item : Content.Item}
    (hc : c.IsLossless line) (hcdata : ∀ m, item = .cdata m → m ≠ "")
    (h : addItem p owner c item w = .ok (c', w')) :
    c'.IsLossless line ∧ (item.Speaks ∨ c.source ≠ "" → c'.source ≠ "") := by
  have hmarkup : ∀ (kind : TokenKind) (markup : String), kind ∈ contentKinds →
      kind ≠ .expressionOpen → kind ≠ .expressionClose → markup ≠ "" →
      (c.addMarkup kind markup).IsLossless line ∧ (c.addMarkup kind markup).source ≠ "" :=
    fun kind markup hkind hopens hcloses hmarkup =>
      ⟨hc.addMarkup hkind hopens hcloses hmarkup, by simp [SiteContent.addMarkup, hmarkup]⟩
  have hsilent : ∀ index, ¬(Content.Item.child index).Speaks := fun _ => id
  cases (adds_of_addItem h).2 with
  | text s =>
    refine ⟨hc.addText s, fun hsource => ?_⟩
    rw [Content.Item.Speaks] at hsource
    simp only [SiteContent.addText, ne_eq, String.append_eq_empty_iff]
    tauto
  | cdata markup =>
    obtain ⟨hlossless, hsource⟩ := hmarkup .expressionCdata markup (by decide) (by decide)
      (by decide) (hcdata markup rfl)
    exact ⟨hlossless, fun _ => hsource⟩
  | directive _ _ => exact ⟨hc, fun hsource => hsource.resolve_left (hsilent _)⟩
  | comment _ kept =>
    obtain ⟨hlossless, hsource⟩ := hmarkup .expressionComment _ (by decide) (by decide)
      (by decide) (by simpa using kept)
    exact ⟨hlossless, fun _ => hsource⟩
  | @instruction _ target data _ =>
    have hstarts : ['<'] <+: printInstruction target (if data == some "" then none else data) :=
      ⟨_, rfl⟩
    obtain ⟨hlossless, hsource⟩ := hmarkup .expressionInstruction _ (by decide) (by decide)
      (by decide) (Content.ofList_ne_empty hstarts (List.cons_ne_nil _ _))
    exact ⟨hlossless, fun _ => hsource⟩
  | reference _ =>
    refine ⟨hc.addText _, fun hsource => ?_⟩
    simp [SiteContent.addText, hsource.resolve_left (hsilent _)]
  | element _ made =>
    obtain ⟨hlossless, hsource⟩ := hmarkup .expressionElement _ (by decide) (by decide)
      (by decide) (embedded_ne_empty made)
    exact ⟨hlossless, fun _ => hsource⟩

theorem addItems_isLossless {items : List Content.Item} {c c' : SiteContent}
    (hc : c.IsLossless line) (hcdata : ∀ m, .cdata m ∈ items → m ≠ "")
    (h : items.foldlM (addItem p owner) c w = .ok (c', w')) :
    c'.IsLossless line
      ∧ ((∃ item ∈ items, item.Speaks) ∨ c.source ≠ "" → c'.source ≠ "") := by
  induction items generalizing c w with
  | nil =>
    obtain ⟨rfl, -⟩ := pure_ok h
    exact ⟨hc, by simp⟩
  | cons item items ih =>
    rw [List.foldlM_cons] at h
    obtain ⟨next, mid, hitem, hrest⟩ := bind_ok h
    obtain ⟨hnext, hgrows⟩ := addItem_isLossless hc
      (fun m hm => hcdata m (hm ▸ List.mem_cons_self ..)) hitem
    obtain ⟨hlossless, hlater⟩ := ih hnext (fun m hm => hcdata m (List.mem_cons_of_mem _ hm)) hrest
    refine ⟨hlossless, fun hspeaks => hlater ?_⟩
    rcases hspeaks with ⟨x, hx, hspeaks⟩ | hsource
    · rcases List.mem_cons.1 hx with rfl | hx
      · exact .inr (hgrows (.inl hspeaks))
      · exact .inl ⟨x, hx, hspeaks⟩
    · exact .inr (hgrows (.inr hsource))

theorem token_ok {c : SiteContent} {path : String} {n : Nat} {name : Option String} {t : Token}
    (h : c.token p path n name = .ok t) : t.line = n
      ∧ ∃ f, t.body = .site f ∧ f.source = c.source ∧ f.content = c.tokens.reverse := by
  rw [SiteContent.token] at h
  split at h
  · cases h
    exact ⟨rfl, _, rfl, rfl, rfl⟩
  · cases h

theorem attributeSite_isLossless {a : Attribute} {t : Token}
    (hd : hasDelimiter a.plainValue.toList = true) (h : attributeSite p place a w = .ok (t, w')) :
    ∃ f, t.body = .site f ∧ f.IsLossless t.line ∧ f.source = a.plainValue := by
  have hlossless := (SiteContent.isLossless_start place.tag.line).addText a.plainValue
  have hall : ((SiteContent.start place.tag.line).addText a.plainValue).source = a.plainValue :=
    String.empty_append
  have hne : a.plainValue ≠ "" := by
    intro he
    rw [he] at hd
    cases hd
  obtain ⟨hline, f, hbody, hsource, hcontent⟩ := token_ok (ofExcept_ok h).1
  exact ⟨f, hbody, hline ▸ hlossless.fields (hall ▸ hne) hsource hcontent, hsource.trans hall⟩

theorem contentSite_isLossless {t : Token} (hplain : ∀ n ∈ place.element.children, n.IsPlain)
    (htext : Selector.hasText place.element = true) (h : contentSite p place w = .ok (t, w')) :
    ∃ f, t.body = .site f ∧ f.IsLossless t.line := by
  obtain ⟨c, mid, hitems, htoken⟩ := bind_ok h
  obtain ⟨n, hn, hspeaks⟩ := List.any_eq_true.1 htext
  rw [Bool.and_eq_true] at hspeaks
  have hne : n.characters ≠ "" := by
    intro he
    rw [he] at hspeaks
    cases hspeaks.2
  obtain ⟨hlossless, hsource⟩ := addItems_isLossless
    (SiteContent.isLossless_start place.tag.line) (fun m => Content.cdata_mem_itemsFrom) hitems
  have hspoken := Content.exists_speaks hplain ⟨n, hn, hspeaks.1, hne⟩ 0 (Nat.lt_succ_self _)
  obtain ⟨hline, f, hbody, hf, hcontent⟩ := token_ok (ofExcept_ok htoken).1
  exact ⟨f, hbody, hline ▸ hlossless.fields (hsource (.inl hspoken)) hf hcontent⟩

end Working

namespace Document

/-- The expressions of a stream: their content is frozen and lossless, and the source of an
attribute is its value, without what references in it stand for. -/
theorem lex_lossless {source : Source} {policy : Policy} {d : Markup.Document}
    {file : Option String} {stream : LexedStream} (hload : source.load file = .ok d)
    (h : (lex policy d file).run.1 = .ok stream) :
    ∃ o : Outline, o.IsOf policy d.root ∧ ∀ t ∈ stream.toList, t.kind = .expression →
      ∃ f, t.body = .site f ∧ f.IsLossless t.line
        ∧ (t.record file).field "content"
          = .stream true (.str f.source) (f.content.map (ContentToken.record file))
        ∧ (f.attributeName = none ∨ ∃ q ∈ d.root.places, ∃ a ∈ q.tag.attributes,
          f.path = o.attributePath q a
            ∧ f.attributeName = some (qualifiedName q.tags a.name.uri a.name.base)
            ∧ f.source = a.valueWith o.selector.expand) := by
  obtain ⟨p, hp, htells⟩ := lex_tells h
  refine ⟨p.outline d.root, hp.isOf, fun t ht hkind => ?_⟩
  have hstream : ∀ f, t.body = .site f → (t.record file).field "content"
      = .stream true (.str f.source) (f.content.map (ContentToken.record file)) := by
    intro f hf
    rw [Token.record, hf]
    rfl
  rcases htells t ht with rfl | rfl | htells
  · cases hkind
  · cases hkind
  cases htells with
  | node mem =>
    rw [Pass.nodeToken] at hkind
    split at hkind <;> cases hkind
  | elementHelper _ _ => cases hkind
  | attributeHelper _ _ => cases hkind
  | @site s w t hs hgives =>
    cases hs with
    | @inAttribute r x a mem above tag own delimiter =>
      have houtline := Pass.outline_attributeOf hp mem tag hgives
      obtain ⟨ts, hgives⟩ := hgives
      obtain ⟨f, hbody, hlossless, hsource⟩ :=
        Working.attributeSite_isLossless delimiter hgives
      obtain ⟨-, hpath, hname⟩ := Pass.fields_of_outline hbody (congrArg Token.body houtline)
      refine ⟨f, hbody, hlossless, hstream f hbody,
        .inr ⟨r, mem, a, tag.attributes a own, hpath, hname, ?_⟩⟩
      rw [hp.isOf.expand]
      exact hsource
    | @inContent r x mem above tag children text =>
      have houtline := Pass.outline_contentOf hp mem tag hgives
      obtain ⟨ts, hgives⟩ := hgives
      obtain ⟨f, hbody, hlossless⟩ := Working.contentSite_isLossless
        (Pass.isPlain_shown (Source.holdsPlain_of_load hload) mem children) text hgives
      obtain ⟨-, -, hname⟩ := Pass.fields_of_outline hbody (congrArg Token.body houtline)
      exact ⟨f, hbody, hlossless, hstream f hbody, .inl hname⟩

/-- The source of a document with text and markup in one element. -/
def sourceOfPieces : Source :=
  .text "<r t=\"{% a %}\">\x7b% b\n%\x7d<i/><!--c--><![CDATA[d]]></r>"

theorem lex_lossless_sample : ∃ d stream, sourceOfPieces.load none = .ok d
    ∧ (lex .standard d none).run.1 = .ok stream
    ∧ ∃ t ∈ stream.toList, ∃ f, t.kind = .expression ∧ t.body = .site f
      ∧ f.IsLossless t.line := by
  have hlexes : (match sourceOfPieces.load none with
      | .ok d =>
        match (lex .standard d none).run.1 with
        | .ok stream => stream.toList.any (·.kind == .expression)
        | .error _ => false
      | .error _ => false) = true := by
    decide +kernel
  split at hlexes
  · rename_i d hload
    split at hlexes
    · rename_i stream h
      obtain ⟨t, ht, hkind⟩ := List.any_eq_true.1 hlexes
      obtain ⟨o, -, hall⟩ := lex_lossless hload h
      obtain ⟨f, hbody, hlossless, -⟩ := hall t ht (eq_of_beq hkind)
      exact ⟨d, stream, hload, h, t, ht, f, eq_of_beq hkind, hbody, hlossless⟩
    · cases hlexes
  · cases hlexes

/-- `<!DOCTYPE r [<!ENTITY o "X">]><r t="{% a %}&o;"/>` -/
def sampleWithReference : Markup.Document where
  version := "1.0"
  encoding := "UTF-8"
  leading := []
  doctype := some ⟨"r", none, none, [.entity ⟨false, "o", .literal "X" "X"⟩]⟩
  before := []
  root := ⟨⟨.bare "r", [], [⟨.bare "t", [.text "\x7b% a %\x7d", .reference "o"]⟩], 1⟩, []⟩
  after := []

/-- The reference is in the value of the attribute, as it is written and as what it stands for, and
not in the source of its site. -/
theorem lex_lossless_references :
    sampleWithReference.root.tag.attributes.map
        (fun a => (a.valueWith fun name => String.ofList (printReference name),
          a.valueWith sampleWithReference.expand)) = [("\x7b% a %\x7d&o;", "\x7b% a %\x7dX")]
      ∧ ((lex .standard sampleWithReference none).run.1.toOption.map fun stream =>
          stream.toList.filterMap fun t =>
            match t.body with
            | .site f => some f.source
            | _ => none)
        = some ["\x7b% a %\x7d"] := by
  decide +kernel

end Document

end TemplateLexer
