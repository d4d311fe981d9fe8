import Mathlib.Data.List.TakeWhile
import TemplateLexer.Content.Items
import TemplateLexer.Markup.Chars

set_option autoImplicit false

namespace TemplateLexer

open Markup

/-- A declaration of a qualifier with the characters that names have. -/
def Markup.Declaration.IsPlain (d : Declaration) : Prop :=
  ∀ q ∈ d.qualifier, q.toList.all inName = true

/-- A node that can be told from what follows it when it is printed: no qualifier closes a tag, as
it is made of characters of names, and no section ends before its end mark. -/
def Markup.Node.IsPlain : Node → Prop
  | .element tag _ => ∀ d ∈ tag.declarations, d.IsPlain
  | .cdata s => Content.sectionEnd? s.toList = none
  | _ => True

instance : DecidablePred Declaration.IsPlain := fun d =>
  inferInstanceAs (Decidable (∀ q ∈ d.qualifier, q.toList.all inName = true))

instance : DecidablePred Node.IsPlain
  | .element tag _ => inferInstanceAs (Decidable (∀ d ∈ tag.declarations, d.IsPlain))
  | .cdata s => inferInstanceAs (Decidable (Content.sectionEnd? s.toList = none))
  | .text _ | .comment _ | .instruction _ _ | .reference _ => .isTrue trivial

namespace Content

section Lists

variable {α : Type} {p : α → Bool} {x : α} {xs ys front rest : List α}

theorem takeWhile_append_cons (hx : p x = false) :
    (xs ++ x :: ys).takeWhile p = xs.takeWhile p := by
  rw [List.takeWhile_append, List.takeWhile_cons_of_neg (by simp [hx]), List.append_nil]
  split
  · rename_i hlen
    exact ((List.takeWhile_prefix p).eq_of_length hlen).symm
  · rfl

theorem dropWhile_append_cons (hx : p x = false) :
    (xs ++ x :: ys).dropWhile p = xs.dropWhile p ++ x :: ys := by
  rw [List.dropWhile_append, List.dropWhile_cons_of_neg (by simp [hx])]
  split
  · rename_i hnil
    rw [List.isEmpty_iff.1 hnil, List.nil_append]
  · rfl

theorem exists_append_of_append_eq (hx : x ∉ front) (h : front ++ rest = xs ++ x :: ys) :
    ∃ more, front ++ more = xs ∧ rest = more ++ x :: ys := by
  rcases List.append_eq_append_iff.1 h with ⟨more, hxs, hrest⟩ | ⟨beyond, hfront, hcons⟩
  · exact ⟨more, hxs.symm, hrest⟩
  · cases beyond with
    | nil => exact ⟨[], by simpa using hfront, by simpa using hcons.symm⟩
    | cons y more =>
      obtain ⟨rfl, -⟩ := List.cons.inj hcons
      exact absurd (hfront ▸ List.mem_append_right xs (List.mem_cons_self ..)) hx

end Lists

section Fronts

variable {front : String} {cs rest : List Char}

theorem after?_eq_some_iff : after? front cs = some rest ↔ front.toList ++ rest = cs := by
  rw [after?, ← String.length_toList]
  constructor
  · intro h
    split at h
    · rename_i hfront
      rw [← Option.some.inj h]
      exact (List.prefix_iff_eq_append.1 (List.isPrefixOf_iff_prefix.1 hfront))
    · cases h
  · rintro rfl
    rw [if_pos (List.isPrefixOf_iff_prefix.2 (List.prefix_append ..)), List.drop_left]

theorem after?_append (front : String) (cs : List Char) :
    after? front (front.toList ++ cs) = some cs :=
  after?_eq_some_iff.2 rfl

theorem after?_eq_none (part : List Char) (hpart : part <+: front.toList) (h : ¬part <+: cs) :
    after? front cs = none := by
  cases hafter : after? front cs with
  | none => rfl
  | some rest => exact absurd (hpart.trans ⟨rest, after?_eq_some_iff.1 hafter⟩) h

theorem standIn?_eq_none (helement : ¬['<', '_'] <+: cs) (hcomment : ¬['<', '!', '-'] <+: cs)
    (hinstruction : ¬['<', '?'] <+: cs) (hreference : ¬['&', '_'] <+: cs) : standIn? cs = none := by
  have h₁ : after? ("<" ++ standIn) cs = none := after?_eq_none _ (by decide) helement
  have h₂ : after? ("<!--" ++ standIn ++ " ") cs = none := after?_eq_none _ (by decide) hcomment
  have h₃ : after? ("<?" ++ standIn ++ " ") cs = none := after?_eq_none _ (by decide) hinstruction
  have h₄ : after? ("&" ++ standIn) cs = none := after?_eq_none _ (by decide) hreference
  rw [standIn?, h₁, h₂, h₃, h₄]
  rfl

theorem standIn?_cons_eq_none {c : Char} (hlt : c ≠ '<') (hamp : c ≠ '&') :
    standIn? (c :: cs) = none := by
  apply standIn?_eq_none
  all_goals simp [List.cons_prefix_cons, hlt.symm, hamp.symm]

end Fronts

section Numbers

theorem digit?_eq {c : Char} (h : c.isDigit = true) :
    Text.digit? c = some (c.toNat - '0'.toNat) := by
  rw [Char.isDigit, Bool.and_eq_true, decide_eq_true_eq, decide_eq_true_eq] at h
  have hfirst : (Text.zeros.find? fun first =>
      first ≤ c.toNat && c.toNat < first + 10) = some 0x30 := by
    refine List.find?_cons_of_pos ?_
    have hlow : (48 : Nat) ≤ c.toNat := h.1
    have hhigh : c.toNat ≤ 57 := h.2
    simp only [Bool.and_eq_true, decide_eq_true_eq]
    omega
  rw [Text.digit?, hfirst]
  rfl

theorem isDigit_of_mem_toDigits {n : Nat} {c : Char} (h : c ∈ Nat.toDigits 10 n) :
    Text.isDigit c = true := by
  rw [Text.isDigit, digit?_eq (Nat.isDigit_of_mem_toDigits (by decide) (by decide) h)]
  rfl

theorem numberOf_toDigits (n : Nat) : Text.numberOf (Nat.toDigits 10 n) = n := by
  have hfold : ∀ (digits : List Char) (k : Nat), (∀ c ∈ digits, c.isDigit = true) →
      digits.foldl (fun n c => n * 10 + (Text.digit? c).getD 0) k
        = Nat.ofDigitChars 10 digits k := by
    intro digits
    induction digits with
    | nil => intro k _; rfl
    | cons c digits ih =>
      intro k hdigits
      obtain ⟨hc, hdigits⟩ := List.forall_mem_cons.1 hdigits
      rw [List.foldl_cons, ih _ hdigits, digit?_eq hc, Nat.mul_comm]
      rfl
  rw [Text.numberOf, hfold _ 0 fun c hc => Nat.isDigit_of_mem_toDigits (by decide) (by decide) hc]
  exact Nat.ofDigitChars_toDigits (by decide) (by decide)

theorem toList_toString (n : Nat) : (toString n).toList = Nat.toDigits 10 n := by
  simp [toString, Nat.repr]

theorem numbered?_digits (n : Nat) {after : List Char} (rest : List Char)
    (hafter : after.head?.map Text.isDigit = some false) :
    numbered? after ((toString n).toList ++ after ++ rest)
      = some (n, rest) := by
  obtain ⟨c, hhead, hc⟩ := Option.map_eq_some_iff.1 hafter
  obtain ⟨cs, rfl⟩ := List.head?_eq_some_iff.1 hhead
  have hall : ∀ d ∈ Nat.toDigits 10 n, Text.isDigit d = true :=
    fun _ hd => isDigit_of_mem_toDigits hd
  have htake : ((toString n).toList ++ (c :: cs) ++ rest).takeWhile Text.isDigit
      = Nat.toDigits 10 n := by
    rw [List.append_assoc, List.cons_append, takeWhile_append_cons hc, toList_toString,
      List.takeWhile_eq_self_iff.2 hall]
  have hdrop : ((toString n).toList ++ (c :: cs) ++ rest).dropWhile Text.isDigit
      = (c :: cs) ++ rest := by
    rw [List.append_assoc, List.cons_append, dropWhile_append_cons hc, toList_toString,
      List.dropWhile_eq_nil_iff.2 hall, List.nil_append]
  have hprefix : (c :: cs).isPrefixOf ((c :: cs) ++ rest) = true :=
    List.isPrefixOf_iff_prefix.2 (List.prefix_append ..)
  have hempty : (Nat.toDigits 10 n).isEmpty = false := by
    simp [Nat.toDigits_ne_nil]
  rw [numbered?, htake, hdrop, hprefix, hempty, List.drop_left, numberOf_toDigits]
  rfl

theorem numberIn?_quoted {before : Char} {cs rest : List Char} {k : Nat}
    (hbefore : Text.isWord before = false) (h : numbered? ['"'] cs = some (k, rest)) :
    numberIn? before ('n' :: '=' :: '"' :: cs) = some k := by
  have hname : "n=\"".toList = ['n', '=', '"'] := String.toList_ofList
  have hfront : "n=\"".toList.isPrefixOf ('n' :: '=' :: '"' :: cs) = true := by
    rw [hname]
    rfl
  rw [numberIn?, hbefore, hfront, Bool.not_false, Bool.and_self, if_pos rfl, List.drop_succ_cons,
    List.drop_succ_cons, List.drop_succ_cons, List.drop_zero, h, Option.map_some, Option.some_or]

theorem numberIn?_skip {before c : Char} {cs : List Char} (h : ¬['n', '=', '"'] <+: c :: cs) :
    numberIn? before (c :: cs) = numberIn? c cs := by
  have hname : "n=\"".toList = ['n', '=', '"'] := String.toList_ofList
  have hfront : "n=\"".toList.isPrefixOf (c :: cs) = false := by
    rw [hname, Bool.eq_false_iff, ne_eq, List.isPrefixOf_iff_prefix]
    exact h
  rw [numberIn?, hfront, Bool.and_false, if_neg (by simp), Option.map_none, Option.none_or]

theorem isWord_space : Text.isWord ' ' = false := by
  decide +kernel

theorem numberIn?_last (before : Char) (n : Nat) :
    numberIn? before (" n=\"" ++ toString n ++ "\"/").toList = some n := by
  have hopen : " n=\"".toList = [' ', 'n', '=', '"'] := String.toList_ofList
  have hclose : "\"/".toList = ['"'] ++ ['/'] := String.toList_ofList
  have hdigits : numbered? ['"'] ((toString n).toList ++ ['"'] ++ ['/']) = some (n, ['/']) :=
    numbered?_digits n ['/'] (by decide)
  have hnumber := numberIn?_quoted isWord_space hdigits
  rw [String.toList_append, String.toList_append, hopen, hclose]
  simp only [List.append_assoc, List.cons_append, List.nil_append] at hnumber ⊢
  rw [numberIn?_skip (by simp [List.cons_prefix_cons]), hnumber]

theorem isSome_numberIn? (before : Char) (front : List Char) (n : Nat) :
    (numberIn? before (front ++ (" n=\"" ++ toString n ++ "\"/").toList)).isSome = true := by
  induction front generalizing before with
  | nil => rw [List.nil_append, numberIn?_last, Option.isSome_some]
  | cons c front ih =>
    rw [List.cons_append, numberIn?, Option.isSome_or, ih c, Bool.or_true]

end Numbers

section Printed

variable {index : Nat} {n : Node} {cs rest : List Char}

theorem elementNumber?_append {inside : List Char} (hinside : '>' ∉ inside) :
    elementNumber? (inside ++ '>' :: rest)
      = if !((inside ++ ['>']).head?.map Text.isWord).getD false && inside.getLast? == some '/' then
          (numberIn? '_' inside).map (·, rest)
        else none := by
  have hall : ∀ d ∈ inside, (d != '>') = true := by
    intro d hd
    rw [bne_iff_ne]
    rintro rfl
    exact hinside hd
  have hhead : (inside ++ '>' :: rest).head? = (inside ++ ['>']).head? := by
    cases inside <;> rfl
  rw [elementNumber?, takeWhile_append_cons (by simp), dropWhile_append_cons (by simp),
    List.takeWhile_eq_self_iff.2 hall, List.dropWhile_eq_nil_iff.2 hall, hhead]
  rfl

section Brackets

variable {b : Char} (hb : b = '<' ∨ b = '>')

include hb

theorem bracket_notMem_escapeValue (s : String) : b ∉ escapeValue s := by
  rw [escapeValue, List.mem_flatMap]
  rintro ⟨c, -, hc⟩
  rw [escapeValueChar.eq_def] at hc
  rcases hb with rfl | rfl
  all_goals split at hc <;> revert hc <;> simp_all [eq_comm]

theorem bracket_notMem_name {name : String} (h : name.toList.all inName = true) :
    b ∉ name.toList := by
  intro hmem
  have hin := List.all_eq_true.1 h b hmem
  rcases hb with rfl | rfl <;> exact absurd hin (by decide)

theorem bracket_notMem_print {d : Declaration} (h : d.IsPlain) : b ∉ d.print := by
  have hvalue := bracket_notMem_escapeValue hb d.uri
  have hsigns : b ∉ " xmlns:=\"".toList := by rcases hb with rfl | rfl <;> decide
  rw [Declaration.print]
  cases hq : d.qualifier with
  | none =>
    simp_all
  | some q =>
    have hname := bracket_notMem_name hb (h q hq)
    simp_all

end Brackets

theorem head?_print (d : Declaration) : d.print.head? = some ' ' := by
  rw [Declaration.print]
  cases d.qualifier <;> simp

/-- The number that the stand-in of a child reads back as. -/
def standInNumber (index : Nat) (n : Node) : Nat :=
  ((standIn? (printStandIn index n)).map (·.1)).getD index

theorem standIn?_atElement (cs : List Char) :
    standIn? (("<" ++ standIn).toList ++ cs) = elementNumber? cs := by
  have hcomment : after? ("<!--" ++ standIn ++ " ") (("<" ++ standIn).toList ++ cs) = none :=
    after?_eq_none ['<', '!', '-'] (by decide) (by simp [standIn, List.cons_prefix_cons])
  have hinstruction : after? ("<?" ++ standIn ++ " ") (("<" ++ standIn).toList ++ cs) = none :=
    after?_eq_none ['<', '?'] (by decide) (by simp [standIn, List.cons_prefix_cons])
  have hreference : after? ("&" ++ standIn) (("<" ++ standIn).toList ++ cs) = none :=
    after?_eq_none ['&'] (by decide) (by simp [standIn, List.cons_prefix_cons])
  rw [standIn?, after?_append, hcomment, hinstruction, hreference]
  simp

theorem standIn?_atComment (cs : List Char) :
    standIn? (("<!--" ++ standIn ++ " ").toList ++ cs) = numbered? "-->".toList cs := by
  have helement : after? ("<" ++ standIn) (("<!--" ++ standIn ++ " ").toList ++ cs) = none :=
    after?_eq_none ['<', '_'] (by decide) (by simp [standIn, List.cons_prefix_cons])
  have hinstruction : after? ("<?" ++ standIn ++ " ") (("<!--" ++ standIn ++ " ").toList ++ cs)
      = none :=
    after?_eq_none ['<', '?'] (by decide) (by simp [standIn, List.cons_prefix_cons])
  have hreference : after? ("&" ++ standIn) (("<!--" ++ standIn ++ " ").toList ++ cs) = none :=
    after?_eq_none ['&'] (by decide) (by simp [standIn, List.cons_prefix_cons])
  rw [standIn?, helement, after?_append, hinstruction, hreference]
  simp

theorem standIn?_atInstruction (cs : List Char) :
    standIn? (("<?" ++ standIn ++ " ").toList ++ cs) = numbered? "?>".toList cs := by
  have helement : after? ("<" ++ standIn) (("<?" ++ standIn ++ " ").toList ++ cs) = none :=
    after?_eq_none ['<', '_'] (by decide) (by simp [standIn, List.cons_prefix_cons])
  have hcomment : after? ("<!--" ++ standIn ++ " ") (("<?" ++ standIn ++ " ").toList ++ cs)
      = none :=
    after?_eq_none ['<', '!', '-'] (by decide) (by simp [standIn, List.cons_prefix_cons])
  have hreference : after? ("&" ++ standIn) (("<?" ++ standIn ++ " ").toList ++ cs) = none :=
    after?_eq_none ['&'] (by decide) (by simp [standIn, List.cons_prefix_cons])
  rw [standIn?, helement, hcomment, after?_append, hreference]
  simp

theorem standIn?_atReference (cs : List Char) :
    standIn? (("&" ++ standIn).toList ++ cs) = numbered? ";".toList cs := by
  have hother : ¬['<'] <+: ("&" ++ standIn).toList ++ cs := by
    simp [standIn, List.cons_prefix_cons]
  have helement : after? ("<" ++ standIn) (("&" ++ standIn).toList ++ cs) = none :=
    after?_eq_none ['<'] (by decide) hother
  have hcomment : after? ("<!--" ++ standIn ++ " ") (("&" ++ standIn).toList ++ cs) = none :=
    after?_eq_none ['<'] (by decide) hother
  have hinstruction : after? ("<?" ++ standIn ++ " ") (("&" ++ standIn).toList ++ cs) = none :=
    after?_eq_none ['<'] (by decide) hother
  rw [standIn?, helement, hcomment, hinstruction, after?_append]
  simp

theorem standIn?_element (index : Nat) {tag : Tag} (h : ∀ d ∈ tag.declarations, d.IsPlain) :
    ∃ k, numberIn? '_' (tag.declarations.flatMap Declaration.print
        ++ (" n=\"" ++ toString index ++ "\"/").toList) = some k
      ∧ ∀ children rest,
        standIn? (printStandIn index (.element tag children) ++ rest) = some (k, rest) := by
  let inside := tag.declarations.flatMap Declaration.print
    ++ (" n=\"" ++ toString index ++ "\"/").toList
  obtain ⟨k, hk⟩ := Option.isSome_iff_exists.1
    (isSome_numberIn? '_' (tag.declarations.flatMap Declaration.print) index)
  have hgt : '>' ∉ inside := by
    have hdigits : '>' ∉ Nat.toDigits 10 index := by
      intro hmem
      have hdigit := isDigit_of_mem_toDigits hmem
      revert hdigit
      decide
    rw [List.mem_append, List.mem_flatMap]
    rintro (⟨d, hd, hmem⟩ | hmem)
    · exact bracket_notMem_print (.inr rfl) (h d hd) hmem
    · simp [hdigits] at hmem
  have hhead : inside.head? = some ' ' := by
    cases hds : tag.declarations with
    | nil => simp [inside, hds]
    | cons d ds => simp [inside, hds, head?_print]
  have hlast : inside.getLast? = some '/' :=
    List.getLast?_eq_some_iff.2 ⟨tag.declarations.flatMap Declaration.print
      ++ (" n=\"" ++ toString index ++ "\"").toList, by simp [inside]⟩
  obtain ⟨cs, hcs⟩ := List.head?_eq_some_iff.1 hhead
  have hnumber : ∀ rest, elementNumber? (inside ++ '>' :: rest) = some (k, rest) := by
    intro rest
    rw [elementNumber?_append hgt, hlast, hk, hcs]
    simp [isWord_space]
  refine ⟨k, hk, fun children rest => ?_⟩
  have hprint : printStandIn index (.element tag children) ++ rest
      = ("<" ++ standIn).toList ++ (inside ++ '>' :: rest) := by
    simp [printStandIn, inside, standIn]
  rw [hprint, standIn?_atElement, hnumber]

theorem standIn?_comment (index : Nat) (body : String) (rest : List Char) :
    standIn? (printStandIn index (.comment body) ++ rest) = some (index, rest) := by
  have hprint : printStandIn index (.comment body) ++ rest
      = ("<!--" ++ standIn ++ " ").toList
        ++ ((toString index).toList ++ "-->".toList ++ rest) := by
    simp [printStandIn, printComment, standIn]
  rw [hprint, standIn?_atComment, numbered?_digits index rest (by decide)]

theorem standIn?_instruction (index : Nat) (target : String) (data : Option String)
    (rest : List Char) :
    standIn? (printStandIn index (.instruction target data) ++ rest) = some (index, rest) := by
  have hprint : printStandIn index (.instruction target data) ++ rest
      = ("<?" ++ standIn ++ " ").toList
        ++ ((toString index).toList ++ "?>".toList ++ rest) := by
    simp [printStandIn, printInstruction, standIn]
  rw [hprint, standIn?_atInstruction, numbered?_digits index rest (by decide)]

theorem standIn?_reference (index : Nat) (name : String) (rest : List Char) :
    standIn? (printStandIn index (.reference name) ++ rest) = some (index, rest) := by
  have hprint : printStandIn index (.reference name) ++ rest
      = ("&" ++ standIn).toList ++ ((toString index).toList ++ ";".toList ++ rest) := by
    simp [printStandIn, printReference, standIn]
  rw [hprint, standIn?_atReference, numbered?_digits index rest (by decide)]

theorem standIn?_remark (hn : n.isCharacters = false) (he : n.isElement = false)
    (rest : List Char) : standIn? (printStandIn index n ++ rest) = some (index, rest) := by
  cases n with
  | comment body => exact standIn?_comment index body rest
  | instruction target data => exact standIn?_instruction index target data rest
  | reference name => exact standIn?_reference index name rest
  | element _ _ => cases he
  | text _ | cdata _ => cases hn

theorem standInNumber_remark (hn : n.isCharacters = false) (he : n.isElement = false) :
    standInNumber index n = index := by
  have hread : standIn? (printStandIn index n ++ []) = some (index, []) :=
    standIn?_remark hn he []
  rw [List.append_nil] at hread
  rw [standInNumber, hread]
  rfl

/-- Every stand-in reads back, whatever follows it. The declarations of an element may hide its
number, but not where it ends. -/
theorem standIn?_printStandIn (hn : n.isCharacters = false) (hplain : n.IsPlain)
    (rest : List Char) :
    standIn? (printStandIn index n ++ rest) = some (standInNumber index n, rest) := by
  cases n with
  | element tag children =>
    obtain ⟨k, -, hk⟩ := standIn?_element index hplain
    have hnil := hk children []
    rw [List.append_nil] at hnil
    rw [hk children rest, standInNumber, hnil]
    rfl
  | comment _ | instruction _ _ | reference _ =>
    rw [standIn?_remark hn rfl, standInNumber_remark hn rfl]
  | text _ | cdata _ => cases hn

end Printed

section Silence

def Silent : List Char → Prop
  | [] => True
  | c :: cs => (∀ rest, standIn? (c :: cs ++ rest) = none) ∧ Silent cs

/-- Whether a stand-in begins anywhere in a text. -/
def holdsStandIn : List Char → Bool
  | [] => false
  | c :: cs => (standIn? (c :: cs)).isSome || holdsStandIn cs

variable {c : Char} {xs ys : List Char} {s : String}

theorem Silent.append (hxs : Silent xs) (hys : Silent ys) : Silent (xs ++ ys) := by
  induction xs with
  | nil => exact hys
  | cons c xs ih =>
    refine ⟨fun rest => ?_, ih hxs.2⟩
    have hfront := hxs.1 (ys ++ rest)
    rwa [← List.append_assoc] at hfront

theorem Silent.cons (hlt : c ≠ '<') (hamp : c ≠ '&') (h : Silent xs) : Silent (c :: xs) :=
  ⟨fun _ => standIn?_cons_eq_none hlt hamp, h⟩

theorem silent_of_plain (h : ∀ c ∈ xs, c ≠ '<' ∧ c ≠ '&') : Silent xs := by
  induction xs with
  | nil => trivial
  | cons c xs ih =>
    obtain ⟨hc, hxs⟩ := List.forall_mem_cons.1 h
    exact .cons hc.1 hc.2 (ih hxs)

theorem silent_reference (c : Char) (xs : List Char) (hc : c ≠ '_')
    (h : ∀ d ∈ c :: xs, d ≠ '<' ∧ d ≠ '&') :
    Silent ('&' :: c :: xs) := by
  refine ⟨fun rest => ?_, silent_of_plain h⟩
  apply standIn?_eq_none
  all_goals simp [List.cons_prefix_cons, hc.symm]

theorem silent_escapeTextChar (c : Char) : Silent (escapeTextChar c) := by
  by_cases hamp : c = '&'
  · subst hamp
    exact silent_reference 'a' ['m', 'p', ';'] (by decide) (by simp)
  by_cases hlt : c = '<'
  · subst hlt
    exact silent_reference 'l' ['t', ';'] (by decide) (by simp)
  by_cases hgt : c = '>'
  · subst hgt
    exact silent_reference 'g' ['t', ';'] (by decide) (by simp)
  by_cases hreturn : c = '\r'
  · subst hreturn
    exact silent_reference '#' ['1', '3', ';'] (by decide) (by simp)
  have hself : escapeTextChar c = [c] := by
    rw [escapeTextChar.eq_def]
    split <;> simp_all
  rw [hself]
  exact .cons hlt hamp trivial

theorem silent_escapeText (s : String) : Silent (escapeText s) := by
  rw [escapeText]
  induction s.toList with
  | nil => trivial
  | cons c cs ih => exact (silent_escapeTextChar c).append ih

theorem numbered?_append_stop {after : List Char} (hafter : ']' ∉ after)
    (h : numbered? after xs = none) : numbered? after (xs ++ ']' :: ys) = none := by
  have hstop : Text.isDigit ']' = false := by decide
  rw [numbered?, takeWhile_append_cons hstop, dropWhile_append_cons hstop]
  rw [numbered?] at h
  simp only [ite_eq_left_iff, reduceCtorEq, imp_false, not_not] at h ⊢
  rw [Bool.or_eq_true] at h ⊢
  refine h.imp_right fun hfront => ?_
  rw [Bool.not_eq_true', Bool.eq_false_iff] at hfront ⊢
  intro hpre
  obtain ⟨rest, hrest⟩ := List.isPrefixOf_iff_prefix.1 hpre
  obtain ⟨more, hmore, -⟩ := exists_append_of_append_eq hafter hrest
  exact hfront (List.isPrefixOf_iff_prefix.2 ⟨more, hmore⟩)

theorem elementNumber?_append_stop (h : elementNumber? xs = none) :
    elementNumber? (xs ++ ']' :: ']' :: '>' :: ys) = none := by
  by_cases hgt : '>' ∈ xs
  · obtain ⟨inside, rest, rfl, hinside⟩ := List.eq_append_cons_of_mem hgt
    rw [elementNumber?_append hinside] at h
    rw [List.append_assoc, List.cons_append, elementNumber?_append hinside]
    split at h
    · rename_i hcond
      rw [Option.map_eq_none_iff] at h
      rw [if_pos hcond, h]
      rfl
    · rename_i hcond
      rw [if_neg hcond]
  · have hall : ∀ d ∈ xs ++ [']', ']'], (d != '>') = true := by
      intro d hd
      rw [bne_iff_ne]
      rintro rfl
      simp [hgt] at hd
    have hlist : xs ++ ']' :: ']' :: '>' :: ys = (xs ++ [']', ']']) ++ '>' :: ys := by simp
    have hlast : (xs ++ [']', ']']).getLast? = some ']' := by simp
    rw [hlist, elementNumber?_append (by simp [hgt]), hlast]
    simp

theorem standIn?_append_stop (h : standIn? xs = none) (ys : List Char) :
    standIn? (xs ++ (sectionStop ++ ys)) = none := by
  have hpart : ∀ {front : String} {number? : List Char → Option (Nat × List Char)},
      ']' ∉ front.toList → (∀ zs, number? zs = none → number? (zs ++ (sectionStop ++ ys)) = none) →
      (after? front xs).bind number? = none →
      (after? front (xs ++ (sectionStop ++ ys))).bind number? = none := by
    intro front number? hfront hnumber hnone
    rw [Option.bind_eq_none_iff] at hnone ⊢
    intro rest hrest
    have happend : front.toList ++ rest = xs ++ ']' :: (']' :: '>' :: ys) :=
      after?_eq_some_iff.1 hrest
    obtain ⟨more, hmore, rfl⟩ := exists_append_of_append_eq hfront happend
    exact hnumber more (hnone more (after?_eq_some_iff.2 hmore))
  rw [standIn?] at h ⊢
  simp only [Option.or_eq_none_iff] at h ⊢
  obtain ⟨⟨⟨helement, hcomment⟩, hinstruction⟩, hreference⟩ := h
  refine ⟨⟨⟨?_, ?_⟩, ?_⟩, ?_⟩
  · exact hpart (by decide) (fun zs hzs => elementNumber?_append_stop hzs) helement
  · exact hpart (by decide) (fun zs hzs => numbered?_append_stop (by decide) hzs) hcomment
  · exact hpart (by decide) (fun zs hzs => numbered?_append_stop (by decide) hzs) hinstruction
  · exact hpart (by decide) (fun zs hzs => numbered?_append_stop (by decide) hzs) hreference

theorem sectionStart_eq : sectionStart = ['<', '!', '[', 'C', 'D', 'A', 'T', 'A', '['] :=
  String.toList_ofList

theorem printCdata_eq (s : String) :
    printCdata s = sectionStart ++ (s.toList ++ sectionStop) := by
  unfold printCdata sectionStart sectionStop
  exact List.append_assoc ..

theorem silent_sectionStart : Silent sectionStart := by
  rw [sectionStart_eq]
  refine ⟨fun rest => ?_, silent_of_plain (by simp)⟩
  apply standIn?_eq_none
  all_goals simp [List.cons_prefix_cons]

theorem silent_printCdata (h : holdsStandIn s.toList = false) : Silent (printCdata s) := by
  have hbody : ∀ cs, holdsStandIn cs = false → Silent (cs ++ sectionStop) := by
    intro cs hcs
    induction cs with
    | nil => exact silent_of_plain (by simp [sectionStop])
    | cons c cs ih =>
      rw [holdsStandIn, Bool.or_eq_false_iff, Option.isSome_eq_false_iff, Option.isNone_iff_eq_none]
        at hcs
      refine ⟨fun rest => ?_, ih hcs.2⟩
      have hfront := standIn?_append_stop hcs.1 rest
      rwa [← List.append_assoc] at hfront
  rw [printCdata_eq]
  exact silent_sectionStart.append (hbody _ h)

end Silence

end Content

end TemplateLexer
