import Mathlib.Data.List.Basic
import TemplateLexer.Proofs.StandIns

set_option autoImplicit false

namespace TemplateLexer

open Markup

namespace Markup.Declaration

/-- What a declaration is written as the value of. -/
def name (d : Declaration) : String :=
  match d.qualifier with
  | some q => "xmlns:" ++ q
  | none => "xmlns"

/-- The number that a declaration gives as the value of `n`: the name ends in an `n` that begins a
word, and the namespace is written with digits only. -/
def number? (d : Declaration) : Option Nat :=
  match (' ' :: d.name.toList).reverse with
  | 'n' :: c :: _ =>
    if !Text.isWord c && d.uri.toList.all Text.isDigit && !d.uri.toList.isEmpty then
      some (Text.numberOf d.uri.toList)
    else none
  | _ => none

theorem print_eq (d : Declaration) :
    d.print = (' ' :: d.name.toList) ++ '=' :: '"' :: (escapeValue d.uri ++ ['"']) := by
  rw [print, name]
  cases d.qualifier <;> simp

theorem eq_notMem_name {d : Declaration} (h : d.IsPlain) : '=' ∉ ' ' :: d.name.toList := by
  rw [name]
  cases hq : d.qualifier with
  | none => simp
  | some q =>
    have hname : '=' ∉ q.toList := fun hmem =>
      absurd (List.all_eq_true.1 (h q hq) '=' hmem) (by decide)
    simp [hname]

end Markup.Declaration

namespace Content

section Values

variable {s : String}

theorem all_isDigit_escapeValueChar (c : Char) :
    (escapeValueChar c).all Text.isDigit = Text.isDigit c := by
  rw [escapeValueChar.eq_def]
  split
  all_goals first | decide | simp

theorem escapeValueChar_of_isDigit {c : Char} (h : Text.isDigit c = true) :
    escapeValueChar c = [c] := by
  rw [escapeValueChar.eq_def]
  split
  all_goals first | rfl | exact absurd h (by decide)

theorem all_isDigit_escapeValue (s : String) :
    (escapeValue s).all Text.isDigit = s.toList.all Text.isDigit := by
  simp only [escapeValue, List.all_flatMap, all_isDigit_escapeValueChar]

theorem escapeValue_of_isDigit (h : s.toList.all Text.isDigit = true) :
    escapeValue s = s.toList := by
  have heach : ∀ c ∈ s.toList, escapeValueChar c = [c] :=
    fun c hc => escapeValueChar_of_isDigit (List.all_eq_true.1 h c hc)
  rw [escapeValue, List.flatMap_congr heach, List.flatMap_singleton']

theorem quote_notMem_escapeValue (s : String) : '"' ∉ escapeValue s := by
  rw [escapeValue, List.mem_flatMap]
  rintro ⟨c, -, hc⟩
  rw [escapeValueChar.eq_def] at hc
  split at hc <;> revert hc <;> simp_all [eq_comm]

theorem numbered?_value (s : String) (rest : List Char) :
    numbered? ['"'] (escapeValue s ++ '"' :: rest)
      = if s.toList.all Text.isDigit && !s.toList.isEmpty then
          some (Text.numberOf s.toList, rest)
        else none := by
  have hquote : Text.isDigit '"' = false := by decide
  rw [numbered?, takeWhile_append_cons hquote, dropWhile_append_cons hquote]
  cases hall : s.toList.all Text.isDigit with
  | true =>
    have hdigits := List.all_eq_true.1 hall
    rw [escapeValue_of_isDigit hall, List.takeWhile_eq_self_iff.2 hdigits,
      List.dropWhile_eq_nil_iff.2 hdigits]
    cases s.toList.isEmpty <;> simp
  | false =>
    rw [← all_isDigit_escapeValue] at hall
    cases hdrop : (escapeValue s).dropWhile Text.isDigit with
    | nil => rw [List.all_eq_true.2 (List.dropWhile_eq_nil_iff.1 hdrop)] at hall; cases hall
    | cons c more =>
      have hmem : c ∈ escapeValue s := List.dropWhile_subset _ (by rw [hdrop]; simp)
      have hc : '"' ≠ c := fun hc => quote_notMem_escapeValue s (hc ▸ hmem)
      simp [List.isPrefixOf, hc]

end Values

section Tags

variable {before c : Char} {cs xs rest : List Char} {d : Declaration}

theorem numberIn?_word (h : Text.isWord before = true) :
    numberIn? before (c :: cs) = numberIn? c cs := by
  rw [numberIn?, h]
  simp

theorem numberIn?_other (h : numbered? ['"'] cs = none) :
    numberIn? before ('n' :: '=' :: '"' :: cs) = numberIn? 'n' ('=' :: '"' :: cs) := by
  rw [numberIn?, List.drop_succ_cons, List.drop_succ_cons, List.drop_succ_cons, List.drop_zero, h,
    ite_self, Option.map_none, Option.none_or]

theorem numberIn?_append (before : Char) (h : ∀ ys, ys <:+ xs → ys ≠ [] → ∀ zs,
    ys ++ rest = 'n' :: '=' :: '"' :: zs → numbered? ['"'] zs = none) :
    numberIn? before (xs ++ rest) = numberIn? (xs.getLast?.getD before) rest := by
  induction xs generalizing before with
  | nil => rfl
  | cons c xs ih =>
    have hrest := ih c fun ys hys => h ys (hys.trans (List.suffix_cons ..))
    rw [List.getLast?_cons, Option.getD_some, ← hrest, List.cons_append]
    by_cases hfront : ['n', '=', '"'] <+: c :: (xs ++ rest)
    · obtain ⟨zs, hzs⟩ := hfront
      have hnone := h (c :: xs) (List.suffix_refl _) (List.cons_ne_nil c xs) zs hzs.symm
      obtain ⟨rfl, hcons⟩ := List.cons.inj hzs
      rw [← hcons]
      exact numberIn?_other hnone
    · exact numberIn?_skip hfront

theorem numberIn?_value (hrest : rest.head? = some ' ') (s : String) :
    numberIn? before ('=' :: '"' :: (escapeValue s ++ '"' :: rest)) = numberIn? '"' rest := by
  obtain ⟨more, rfl⟩ := List.head?_eq_some_iff.1 hrest
  have hblank : numbered? ['"'] (' ' :: more) = none := by
    have hspace : Text.isDigit ' ' = false := by decide
    simp [numbered?, hspace]
  have hpass : ∀ ys, ys <:+ escapeValue s → ys ≠ [] → ∀ zs,
      ys ++ '"' :: ' ' :: more = 'n' :: '=' :: '"' :: zs → numbered? ['"'] zs = none := by
    intro ys hys hne zs hzs
    have hquote : '"' ∉ ys := fun hmem => quote_notMem_escapeValue s (hys.subset hmem)
    -- The mark in front of a number is the one that ends the value, and no digit follows that.
    rcases ys with _ | ⟨a, _ | ⟨b, _ | ⟨c, ys⟩⟩⟩
    · exact absurd rfl hne
    · simp at hzs
    · simp only [List.cons_append, List.nil_append, List.cons.injEq] at hzs
      rw [← hzs.2.2.2]
      exact hblank
    · simp only [List.cons_append, List.cons.injEq] at hzs
      simp [hzs.2.2.1] at hquote
  rw [numberIn?_skip (by simp [List.cons_prefix_cons]),
    numberIn?_skip (by simp [List.cons_prefix_cons]), numberIn?_append _ hpass,
    numberIn?_skip (by simp [List.cons_prefix_cons])]

theorem numberIn?_name (hequals : '=' ∉ xs) (h : xs.getLast? ≠ some 'n' ∨ rest.head? ≠ some '=')
    (before : Char) :
    numberIn? before (xs ++ rest) = numberIn? (xs.getLast?.getD before) rest := by
  refine numberIn?_append before fun ys hys hne zs hzs => ?_
  rcases ys with _ | ⟨a, _ | ⟨b, ys⟩⟩
  · exact absurd rfl hne
  · simp only [List.cons_append, List.nil_append, List.cons.injEq] at hzs
    obtain ⟨front, rfl⟩ := hys
    rcases h with h | h
    · exact absurd (by simp [hzs.1]) h
    · exact absurd (by simp [hzs.2]) h
  · simp only [List.cons_append, List.cons.injEq] at hzs
    exact absurd (hys.subset (by simp [hzs.2.1])) hequals

theorem numberIn?_print (hd : d.IsPlain) (before : Char) (hrest : rest.head? = some ' ') :
    numberIn? before (d.print ++ rest) = d.number?.or (numberIn? '"' rest) := by
  have hequals := Declaration.eq_notMem_name hd
  have hlist : d.print ++ rest
      = (' ' :: d.name.toList) ++ '=' :: '"' :: (escapeValue d.uri ++ '"' :: rest) := by
    rw [Declaration.print_eq]
    simp
  rw [hlist, Declaration.number?]
  split
  · rename_i c back hback
    have hname : ' ' :: d.name.toList = (back.reverse ++ [c]) ++ ['n'] := by
      rw [← List.reverse_reverse (' ' :: d.name.toList), hback]
      simp
    have hfront : '=' ∉ back.reverse ++ [c] := fun hmem =>
      hequals (hname ▸ List.mem_append_left _ hmem)
    rw [hname, List.append_assoc, numberIn?_name hfront (.inr (by simp)), List.getLast?_concat,
      Option.getD_some, List.singleton_append]
    -- The name ends in an n, which counts unless a word goes on with it.
    cases hword : Text.isWord c with
    | true =>
      rw [numberIn?_word hword, numberIn?_value hrest]
      simp
    | false =>
      have hnumber := numbered?_value d.uri rest
      rw [Bool.not_false, Bool.true_and]
      split
      · rename_i hdigits
        rw [if_pos hdigits] at hnumber
        rw [numberIn?_quoted hword hnumber, Option.some_or]
      · rename_i hdigits
        rw [if_neg hdigits] at hnumber
        rw [numberIn?_other hnumber, numberIn?_value hrest, Option.none_or]
  · rename_i hother
    have hlast : (' ' :: d.name.toList).getLast? ≠ some 'n' := by
      intro hlast
      obtain ⟨front, hfront⟩ := List.getLast?_eq_some_iff.1 hlast
      rcases List.eq_nil_or_concat front with rfl | ⟨front, c, rfl⟩
      · simp at hfront
      · exact hother c front.reverse (by rw [hfront]; simp)
    rw [numberIn?_name hequals (.inl hlast), numberIn?_value hrest, Option.none_or]

/-- The first declaration with a number tells the number of a stand-in, and its index only if there
is none. -/
theorem numberIn?_declarations {ds : List Declaration} (hds : ∀ d ∈ ds, d.IsPlain) (before : Char)
    (index : Nat) :
    numberIn? before (ds.flatMap Declaration.print ++ (" n=\"" ++ toString index ++ "\"/").toList)
      = some ((ds.findSome? Declaration.number?).getD index) := by
  induction ds generalizing before with
  | nil => exact numberIn?_last before index
  | cons d ds ih =>
    obtain ⟨hd, hds⟩ := List.forall_mem_cons.1 hds
    have hhead : (ds.flatMap Declaration.print
        ++ (" n=\"" ++ toString index ++ "\"/").toList).head? = some ' ' := by
      cases ds with
      | nil => simp
      | cons d ds => simp [head?_print]
    rw [List.flatMap_cons, List.append_assoc, numberIn?_print hd before hhead, ih hds,
      List.findSome?_cons]
    cases d.number? <;> rfl

theorem standInNumber_element (index : Nat) {tag : Tag} (h : ∀ d ∈ tag.declarations, d.IsPlain)
    (children : List Node) : standInNumber index (.element tag children)
      = (tag.declarations.findSome? Declaration.number?).getD index := by
  obtain ⟨k, hk, hread⟩ := standIn?_element index h
  have hnil := hread children []
  rw [List.append_nil] at hnil
  rw [numberIn?_declarations h, Option.some_inj] at hk
  rw [standInNumber, hnil, hk]
  rfl

end Tags

section Fronts

variable {cs rest after : List Char} {k : Nat}

theorem numbered?_eq_some (hafter : after.head?.map Text.isDigit = some false)
    (h : numbered? after cs = some (k, rest)) : ∃ digits, cs = digits ++ (after ++ rest)
      ∧ ∀ more, numbered? after (digits ++ (after ++ more)) = some (k, more) := by
  rw [numbered?] at h
  split at h
  · cases h
  · rename_i hfound
    obtain ⟨rfl, rfl⟩ := Prod.mk.inj (Option.some.inj h)
    rw [Bool.or_eq_true, not_or, Bool.not_eq_true, Bool.not_eq_true, Bool.not_eq_false'] at hfound
    obtain ⟨hdigits, hafter'⟩ := hfound
    obtain ⟨c, hhead, hc⟩ := Option.map_eq_some_iff.1 hafter
    obtain ⟨tail, rfl⟩ := List.head?_eq_some_iff.1 hhead
    refine ⟨cs.takeWhile Text.isDigit, ?_, fun more => ?_⟩
    · rw [List.prefix_iff_eq_append.1 (List.isPrefixOf_iff_prefix.1 hafter'),
        List.takeWhile_append_dropWhile]
    · have hall : ∀ d ∈ cs.takeWhile Text.isDigit, Text.isDigit d = true := fun d hd =>
        List.all_eq_true.1 List.all_takeWhile d hd
      have hprefix : (c :: tail).isPrefixOf ((c :: tail) ++ more) = true :=
        List.isPrefixOf_iff_prefix.2 (List.prefix_append ..)
      rw [numbered?, List.cons_append, takeWhile_append_cons hc, dropWhile_append_cons hc,
        List.takeWhile_eq_self_iff.2 hall, List.dropWhile_eq_nil_iff.2 hall, List.nil_append,
        ← List.cons_append, hdigits, hprefix, List.drop_left]
      rfl

theorem elementNumber?_eq_some (h : elementNumber? cs = some (k, rest)) :
    ∃ inside, cs = inside ++ '>' :: rest
      ∧ ∀ more, elementNumber? (inside ++ '>' :: more) = some (k, more) := by
  by_cases hgt : '>' ∈ cs
  · obtain ⟨inside, rest', rfl, hinside⟩ := List.eq_append_cons_of_mem hgt
    rw [elementNumber?_append hinside] at h
    split at h
    · rename_i hcond
      obtain ⟨k', hk, hrest⟩ := Option.map_eq_some_iff.1 h
      obtain ⟨rfl, rfl⟩ := Prod.mk.inj hrest
      refine ⟨inside, rfl, fun more => ?_⟩
      rw [elementNumber?_append hinside, if_pos hcond, hk]
      rfl
    · cases h
  · have hall : ∀ c ∈ cs, (c != '>') = true := fun c hc =>
      bne_iff_ne.2 fun he => hgt (he ▸ hc)
    rw [elementNumber?, List.dropWhile_eq_nil_iff.2 hall] at h
    cases h

theorem exists_front_of_standIn? (h : standIn? cs = some (k, rest)) :
    ∃ front, front ≠ [] ∧ cs = front ++ rest
      ∧ ∀ more, standIn? (front ++ more) = some (k, more) := by
  have hmarked : ∀ {mark after : String}, (after.toList.head?.map Text.isDigit = some false) →
      (∀ cs, standIn? (mark.toList ++ cs) = numbered? after.toList cs) → mark.toList ≠ [] →
      (after? mark cs).bind (numbered? after.toList) = some (k, rest) →
      ∃ front, front ≠ [] ∧ cs = front ++ rest
        ∧ ∀ more, standIn? (front ++ more) = some (k, more) := by
    intro mark after hafter hat hmark hread
    obtain ⟨inside, hinside, hnumber⟩ := Option.bind_eq_some_iff.1 hread
    obtain ⟨digits, rfl, hmore⟩ := numbered?_eq_some hafter hnumber
    refine ⟨mark.toList ++ (digits ++ after.toList), by simp [hmark], ?_, fun more => ?_⟩
    · rw [← after?_eq_some_iff.1 hinside]
      simp
    · have hlist : mark.toList ++ (digits ++ after.toList) ++ more
          = mark.toList ++ (digits ++ (after.toList ++ more)) := by simp
      rw [hlist, hat, hmore]
  rw [standIn?] at h
  simp only [Option.or_eq_some_iff] at h
  rcases h with ((helement | ⟨-, hcomment⟩) | ⟨-, hinstruction⟩) | ⟨-, hreference⟩
  · obtain ⟨inside, hinside, hnumber⟩ := Option.bind_eq_some_iff.1 helement
    obtain ⟨tag, rfl, hmore⟩ := elementNumber?_eq_some hnumber
    refine ⟨("<" ++ standIn).toList ++ (tag ++ ['>']), by simp, ?_, fun more => ?_⟩
    · rw [← after?_eq_some_iff.1 hinside]
      simp
    · have hlist : ("<" ++ standIn).toList ++ (tag ++ ['>']) ++ more
          = ("<" ++ standIn).toList ++ (tag ++ '>' :: more) := by simp
      rw [hlist, standIn?_atElement, hmore]
  · exact hmarked (by decide) standIn?_atComment (by simp) hcomment
  · exact hmarked (by decide) standIn?_atInstruction (by simp) hinstruction
  · exact hmarked (by decide) standIn?_atReference (by simp) hreference

end Fronts

end Content

end TemplateLexer
