import Mathlib.Data.List.Chain
import Mathlib.Tactic.Ring
import TemplateLexer.Expression.Scanner
import TemplateLexer.Proofs.SearchedRuns
/-!
The runs of a text, told by a scan from left to right: characters are passed over up to the next
place where a delimiter begins, or a quote that occurs again. The pattern is searched for and the
text is cut to the same end.
-/

set_option autoImplicit false

namespace TemplateLexer

namespace Expression

def isQuote (c : Char) : Bool := c == '\'' || c == '"'

/-- The quote at `q` occurs again at `e`. -/
structure Repeats (text : List Char) (q e : Nat) : Prop where
  later : q < e
  quote : ∃ c, isQuote c ∧ text[q]? = some c ∧ text[e]? = some c

def Escaped (text : List Char) (e : Nat) : Prop := ∃ r, e = r + 1 ∧ text[r]? = some '\\'

/-- Whether a literal or delimiter begins at a place. -/
inductive Begins (text : List Char) (q : Nat) : Prop
  | opens (first : text[q]? = some '{') (second : text[q + 1]? = some '%')
  | closes (first : text[q]? = some '%') (second : text[q + 1]? = some '}')
  | quote {e : Nat} (again : Repeats text q e)

/-- A literal from `q` ends at the first quote like its own that is not escaped, or, if all are,
at the last one. -/
inductive LiteralEnds (text : List Char) (q e : Nat) : Prop
  | bare (again : Repeats text q e) (bare : ¬Escaped text e)
      (first : ∀ r < e, Repeats text q r → Escaped text r)
  | last (again : Repeats text q e) (escaped : ∀ r, Repeats text q r → Escaped text r)
      (last : ∀ r, Repeats text q r → r ≤ e)

/-- What is at a place where a literal or delimiter begins, and where it ends. -/
inductive Reaches (text : List Char) (q : Nat) : RunKind → Nat → Prop
  | opens (first : text[q]? = some '{') (second : text[q + 1]? = some '%') :
      Reaches text q .opens (q + 2)
  | closes (first : text[q]? = some '%') (second : text[q + 1]? = some '}') :
      Reaches text q .closes (q + 2)
  | single {e : Nat} (quote : text[q]? = some '\'') (ends : LiteralEnds text q e) :
      Reaches text q .singleQuoted (e + 1)
  | double {e : Nat} (quote : text[q]? = some '"') (ends : LiteralEnds text q e) :
      Reaches text q .doubleQuoted (e + 1)

def slice (text : List Char) (p q : Nat) : List Char := (text.take q).drop p

/-- The pieces of a text from a place on, in a scan from left to right. -/
inductive Scans (text : List Char) : Nat → List Piece → Prop
  | done {p : Nat} (stop : text.length ≤ p) : Scans text p []
  | rest {p : Nat} (more : p < text.length) (plain : ∀ q, p ≤ q → ¬Begins text q) :
      Scans text p [⟨.characters, text.drop p⟩]
  | run {p q e : Nat} {kind : RunKind} {ps : List Piece} (passed : p ≤ q)
      (first : ∀ r, p ≤ r → r < q → ¬Begins text r) (reaches : Reaches text q kind e)
      (after : Scans text e ps) :
      Scans text p (Piece.between (slice text p q) ++ ⟨kind, slice text q e⟩ :: ps)

section Literal

open Piece

variable {c x : Char} {cs body rest : List Char}

theorem firstBare_eq_some (h : firstBare c (x == '\\') cs = some (body, rest)) :
    ∃ i, cs[i]? = some c ∧ (x :: cs)[i]? ≠ some '\\'
      ∧ (∀ j < i, cs[j]? = some c → (x :: cs)[j]? = some '\\')
      ∧ body = cs.take (i + 1) ∧ rest = cs.drop (i + 1) := by
  induction cs generalizing x body with
  | nil => simp [firstBare] at h
  | cons d cs ih =>
    rw [firstBare] at h
    split at h
    · rename_i hc
      cases h
      refine ⟨0, ?_, ?_, ?_, ?_, ?_⟩ <;> simp_all
    · rename_i hc
      obtain ⟨⟨b, r⟩, hb, he⟩ := Option.map_eq_some_iff.1 h
      cases he
      obtain ⟨i, hi, hbare, hfirst, rfl, rfl⟩ := ih hb
      refine ⟨i + 1, hi, hbare, ?_, rfl, rfl⟩
      intro j hj hjc
      cases j with
      | zero =>
        by_contra hx
        exact hc ⟨by simpa using hjc, by simpa using hx⟩
      | succ j => exact hfirst j (by omega) hjc

theorem firstBare_eq_none (h : firstBare c (x == '\\') cs = none) :
    ∀ j : Nat, cs[j]? = some c → (x :: cs)[j]? = some '\\' := by
  induction cs generalizing x with
  | nil => simp
  | cons d cs ih =>
    rw [firstBare] at h
    split at h
    · cases h
    · rename_i hc
      intro j hjc
      cases j with
      | zero =>
        by_contra hx
        exact hc ⟨by simpa using hjc, by simpa using hx⟩
      | succ j => exact ih (Option.map_eq_none_iff.1 h) j hjc

theorem lastQuote_eq_none (h : lastQuote c cs = none) : ∀ j : Nat, cs[j]? ≠ some c := by
  induction cs with
  | nil => simp
  | cons d cs ih =>
    rw [lastQuote] at h
    split at h
    · cases h
    · split at h
      · cases h
      · rename_i hnone hd
        intro j
        cases j with
        | zero => simpa using hd
        | succ j => exact ih hnone j

theorem lastQuote_eq_some (h : lastQuote c cs = some (body, rest)) :
    ∃ i, cs[i]? = some c ∧ (∀ j, cs[j]? = some c → j ≤ i)
      ∧ body = cs.take (i + 1) ∧ rest = cs.drop (i + 1) := by
  induction cs generalizing body with
  | nil => simp [lastQuote] at h
  | cons d cs ih =>
    rw [lastQuote] at h
    split at h
    · rename_i b r hb
      cases h
      obtain ⟨i, hi, hlast, rfl, rfl⟩ := ih hb
      refine ⟨i + 1, hi, ?_, rfl, rfl⟩
      intro j hj
      cases j with
      | zero => omega
      | succ j => exact Nat.succ_le_succ (hlast j hj)
    · rename_i hnone
      split at h
      · rename_i hd
        cases h
        refine ⟨0, by simp [hd], ?_, by simp, rfl⟩
        intro j hj
        cases j with
        | zero => exact Nat.le_refl 0
        | succ j => exact absurd hj (lastQuote_eq_none hnone j)
      · cases h

end Literal

section Places

open Piece

variable {text : List Char} {q : Nat} {c d : Char} {cs : List Char}

theorem getElem?_of_drop (h : text.drop q = c :: cs) (j : Nat) :
    text[q + j]? = (c :: cs)[j]? := by
  rw [← h, List.getElem?_drop]

theorem getElem?_of_drop_succ (h : text.drop q = c :: cs) (j : Nat) :
    text[q + 1 + j]? = cs[j]? := by
  rw [Nat.add_assoc, Nat.add_comm 1, getElem?_of_drop h (j + 1), List.getElem?_cons_succ]

theorem repeats_iff (h : text.drop q = c :: cs) (hc : isQuote c) {r : Nat} :
    Repeats text q r ↔ ∃ j, r = q + 1 + j ∧ cs[j]? = some c := by
  have hq : text[q]? = some c := getElem?_of_drop h 0
  constructor
  · rintro ⟨hlater, d, -, hd, hr⟩
    obtain ⟨j, rfl⟩ := Nat.exists_eq_add_of_lt hlater
    rw [Nat.add_right_comm] at hr ⊢
    rw [hq] at hd
    cases hd
    exact ⟨j, rfl, getElem?_of_drop_succ h j ▸ hr⟩
  · rintro ⟨j, rfl, hj⟩
    exact ⟨by omega, c, hc, hq, (getElem?_of_drop_succ h j).trans hj⟩

theorem escaped_iff (h : text.drop q = c :: cs) (j : Nat) :
    Escaped text (q + 1 + j) ↔ (c :: cs)[j]? = some '\\' := by
  rw [← getElem?_of_drop h]
  constructor
  · rintro ⟨r, hr, hback⟩
    obtain rfl : r = q + j := by omega
    exact hback
  · intro hback
    exact ⟨q + j, by omega, hback⟩

theorem literal_eq_some (h : text.drop q = c :: cs) (hc : isQuote c) {body rest : List Char}
    (hlit : literal c cs = some (body, rest)) :
    ∃ e, LiteralEnds text q e ∧ c :: body = slice text q (e + 1) ∧ rest = text.drop (e + 1) := by
  have hcut (i : Nat) : c :: cs.take (i + 1) = slice text q (q + 1 + i + 1)
      ∧ cs.drop (i + 1) = text.drop (q + 1 + i + 1) := by
    constructor
    · rw [slice, List.drop_take, h]
      rw [show q + 1 + i + 1 - q = i + 1 + 1 by omega, List.take_succ_cons]
    · have hdrop : text.drop (q + (i + 1 + 1)) = cs.drop (i + 1) := by
        rw [← List.drop_drop, h, List.drop_succ_cons]
      rw [show q + 1 + i + 1 = q + (i + 1 + 1) by omega, hdrop]
  have hback : (c == '\\') = false := by
    cases hb : c == '\\' with
    | false => rfl
    | true => rw [beq_iff_eq.1 hb] at hc; cases hc
  rw [literal, Option.or_eq_some_iff] at hlit
  rcases hlit with hlit | ⟨hnone, hlit⟩
  · rw [← hback] at hlit
    obtain ⟨i, hi, hbare, hfirst, rfl, rfl⟩ := firstBare_eq_some hlit
    refine ⟨q + 1 + i, .bare ((repeats_iff h hc).2 ⟨i, rfl, hi⟩) ?_ ?_, hcut i⟩
    · rwa [escaped_iff h]
    · intro r hr hagain
      obtain ⟨j, rfl, hj⟩ := (repeats_iff h hc).1 hagain
      exact (escaped_iff h j).2 (hfirst j (by omega) hj)
  · rw [← hback] at hnone
    obtain ⟨i, hi, hlast, rfl, rfl⟩ := lastQuote_eq_some hlit
    refine ⟨q + 1 + i, .last ((repeats_iff h hc).2 ⟨i, rfl, hi⟩) ?_ ?_, hcut i⟩
    · intro r hagain
      obtain ⟨j, rfl, hj⟩ := (repeats_iff h hc).1 hagain
      exact (escaped_iff h j).2 (firstBare_eq_none hnone j hj)
    · intro r hagain
      obtain ⟨j, rfl, hj⟩ := (repeats_iff h hc).1 hagain
      have := hlast j hj
      omega

theorem literal_eq_none (h : text.drop q = c :: cs) (hc : isQuote c)
    (hlit : literal c cs = none) (e : Nat) : ¬Repeats text q e := by
  rw [repeats_iff h hc]
  rintro ⟨j, -, hj⟩
  rw [literal, Option.or_eq_none_iff] at hlit
  exact lastQuote_eq_none hlit.2 j hj

theorem LiteralEnds.again {e : Nat} (h : LiteralEnds text q e) : Repeats text q e := by
  cases h <;> assumption

/-- A place ends one literal at most. -/
theorem LiteralEnds.unique {e e' : Nat} (h : LiteralEnds text q e) (h' : LiteralEnds text q e') :
    e = e' := by
  have hagain := h.again
  have hagain' := h'.again
  cases h with
  | bare _ hbare hfirst =>
    cases h' with
    | bare _ hbare' hfirst' =>
      by_contra hne
      rcases Nat.lt_or_gt_of_ne hne with hlt | hlt
      · exact hbare (hfirst' e hlt hagain)
      · exact hbare' (hfirst e' hlt hagain')
    | last _ hall _ => exact absurd (hall e hagain) hbare
  | last _ hall hlast =>
    cases h' with
    | bare _ hbare' _ => exact absurd (hall e' hagain') hbare'
    | last _ _ hlast' => exact Nat.le_antisymm (hlast' e hagain) (hlast e' hagain')

theorem Reaches.unique {k k' : RunKind} {e e' : Nat} (h : Reaches text q k e)
    (h' : Reaches text q k' e') : k = k' ∧ e = e' := by
  cases h with
  | opens first second => cases h' <;> simp_all
  | closes first second => cases h' <;> simp_all
  | single quote ends =>
    cases h' with
    | single _ ends' => exact ⟨rfl, congrArg (· + 1) (ends.unique ends')⟩
    | _ => simp_all
  | double quote ends =>
    cases h' with
    | double _ ends' => exact ⟨rfl, congrArg (· + 1) (ends.unique ends')⟩
    | _ => simp_all

theorem slice_two (h : text.drop q = c :: d :: cs) :
    [c, d] = slice text q (q + 2) ∧ cs = text.drop (q + 2) := by
  constructor
  · rw [slice, List.drop_take, h, Nat.add_sub_cancel_left]
    rfl
  · rw [← List.drop_drop, h]
    rfl

theorem reaches_of_leading {p : Piece} {rest : List Char}
    (h : leading (text.drop q) = some (p, rest)) :
    ∃ e, Reaches text q p.kind e ∧ p.text = slice text q e ∧ rest = text.drop e := by
  generalize hdrop : text.drop q = cs at h
  unfold leading at h
  split at h
  · obtain ⟨⟨body, more⟩, hlit, he⟩ := Option.map_eq_some_iff.1 h
    cases he
    obtain ⟨e, hends, htext, hrest⟩ := literal_eq_some hdrop rfl hlit
    exact ⟨e + 1, .single (getElem?_of_drop hdrop 0) hends, htext, hrest⟩
  · obtain ⟨⟨body, more⟩, hlit, he⟩ := Option.map_eq_some_iff.1 h
    cases he
    obtain ⟨e, hends, htext, hrest⟩ := literal_eq_some hdrop rfl hlit
    exact ⟨e + 1, .double (getElem?_of_drop hdrop 0) hends, htext, hrest⟩
  · cases h
    have hfirst : text[q]? = some '{' := getElem?_of_drop hdrop 0
    have hsecond : text[q + 1]? = some '%' := getElem?_of_drop hdrop 1
    exact ⟨q + 2, .opens hfirst hsecond, slice_two hdrop⟩
  · cases h
    have hfirst : text[q]? = some '%' := getElem?_of_drop hdrop 0
    have hsecond : text[q + 1]? = some '}' := getElem?_of_drop hdrop 1
    exact ⟨q + 2, .closes hfirst hsecond, slice_two hdrop⟩
  · cases h

theorem drop_of_getElem? (h : text[q]? = some c) :
    text.drop q = c :: text.drop (q + 1) := by
  obtain ⟨hlt, rfl⟩ := List.getElem?_eq_some_iff.1 h
  exact List.drop_eq_getElem_cons hlt

theorem not_begins_of_leading (h : leading (text.drop q) = none) : ¬Begins text q := by
  intro hbegins
  cases hbegins with
  | opens first second =>
    rw [drop_of_getElem? first, drop_of_getElem? second] at h
    cases h
  | closes first second =>
    rw [drop_of_getElem? first, drop_of_getElem? second] at h
    cases h
  | quote again =>
    obtain ⟨-, c, hc, hq, -⟩ := id again
    have hdrop := drop_of_getElem? hq
    rw [hdrop] at h
    have hcases : c = '\'' ∨ c = '"' := by simpa [isQuote] using hc
    rcases hcases with rfl | rfl
    · exact literal_eq_none hdrop rfl (Option.map_eq_none_iff.1 h) _ again
    · exact literal_eq_none hdrop rfl (Option.map_eq_none_iff.1 h) _ again

end Places

section Found

open Pattern

variable {n : Nat} {cs : List Char} {f : Found}

theorem leading_of_find? (h : expressionRun.find? false n cs = some f) :
    ∃ q p, Piece.leading (cs.drop q) = some (p, f.last.rest) ∧ f.matched = p.text
      ∧ f.skipped = cs.take q ∧ ∀ r < q, Piece.leading (cs.drop r) = none := by
  induction cs generalizing n f with
  | nil =>
    rw [find?_nil] at h
    cases h
  | cons c cs ih =>
    cases hlead : Piece.leading (c :: cs) with
    | some found =>
      rw [find?_of_leading hlead] at h
      cases h
      exact ⟨0, found.1, hlead, rfl, rfl, nofun⟩
    | none =>
      rw [find?_of_not_leading hlead] at h
      obtain ⟨g, hg, rfl⟩ := Option.map_eq_some_iff.1 h
      obtain ⟨q, p, hp, hmatched, hskipped, hfirst⟩ := ih hg
      refine ⟨q + 1, p, hp, hmatched, congrArg (c :: ·) hskipped, ?_⟩
      intro r hr
      cases r with
      | zero => exact hlead
      | succ r => exact hfirst r (by omega)

theorem leading_of_not_found (h : expressionRun.find? false n cs = none) (q : Nat) :
    Piece.leading (cs.drop q) = none := by
  induction cs generalizing n q with
  | nil => rw [List.drop_nil]; rfl
  | cons c cs ih =>
    cases hlead : Piece.leading (c :: cs) with
    | some found =>
      rw [find?_of_leading hlead] at h
      cases h
    | none =>
      rw [find?_of_not_leading hlead, Option.map_eq_none_iff] at h
      cases q with
      | zero => exact hlead
      | succ q => exact ih h q

end Found

section Scan

variable {text : List Char} {p : Nat} {ps ps' : List Piece}

/-- Searching for the pattern scans the text from left to right. -/
theorem scans_searched (text : List Char) (n p : Nat) :
    Scans text p (Piece.searched n (text.drop p)) := by
  generalize hcs : text.drop p = cs
  fun_induction Piece.searched n cs generalizing p with
  | case1 n cs hempty =>
    rw [List.isEmpty_iff.1 hempty, List.drop_eq_nil_iff] at hcs
    exact .done hcs
  | case2 n cs hfull hnone =>
    subst hcs
    have hmore : p < text.length := by
      rw [List.isEmpty_iff, List.drop_eq_nil_iff] at hfull
      omega
    refine .rest hmore fun q hq => not_begins_of_leading ?_
    have hq' := leading_of_not_found hnone (q - p)
    rwa [List.drop_drop, Nat.add_sub_cancel' hq] at hq'
  | case3 n cs hfull f hfound ih =>
    subst hcs
    obtain ⟨q, piece, hlead, hmatched, hskipped, hfirst⟩ := leading_of_find? hfound
    have hkind : Piece.kindOf f.matched = piece.kind := hmatched ▸ Piece.kindOf_leading hlead
    rw [List.drop_drop] at hlead
    obtain ⟨e, hreaches, htext, hrest⟩ := reaches_of_leading hlead
    have hskip : f.skipped = slice text p (p + q) := by
      rw [hskipped, slice, List.drop_take, Nat.add_sub_cancel_left]
    rw [hkind, hskip, hmatched, htext]
    refine .run (Nat.le_add_right p q) ?_ hreaches (ih e hrest.symm)
    intro r hpr hr
    have hr' := hfirst (r - p) (by omega)
    rw [List.drop_drop, Nat.add_sub_cancel' hpr] at hr'
    exact not_begins_of_leading hr'

theorem Reaches.begins {q e : Nat} {kind : RunKind} (h : Reaches text q kind e) :
    Begins text q := by
  cases h with
  | opens first second => exact .opens first second
  | closes first second => exact .closes first second
  | single _ ends => exact .quote ends.again
  | double _ ends => exact .quote ends.again

theorem Begins.lt {q : Nat} (h : Begins text q) : q < text.length := by
  have hlt {c : Char} (h : text[q]? = some c) : q < text.length :=
    (List.getElem?_eq_some_iff.1 h).1
  cases h with
  | opens first _ => exact hlt first
  | closes first _ => exact hlt first
  | quote again =>
    obtain ⟨-, c, -, hq, -⟩ := again
    exact hlt hq

/-- A scan is determined by the text. -/
theorem Scans.unique (h : Scans text p ps) (h' : Scans text p ps') : ps = ps' := by
  induction h generalizing ps' with
  | done stop =>
    cases h' with
    | done => rfl
    | rest more => omega
    | run hpq _ reaches _ =>
      have := reaches.begins.lt
      omega
  | rest more plain =>
    cases h' with
    | done stop => omega
    | rest => rfl
    | run hpq _ reaches _ => exact absurd reaches.begins (plain _ hpq)
  | run hpq first reaches _ ih =>
    cases h' with
    | done stop =>
      have := reaches.begins.lt
      omega
    | rest _ plain => exact absurd reaches.begins (plain _ hpq)
    | run hpq' first' reaches' after' =>
      have hq := Nat.le_antisymm
        (Nat.le_of_not_lt fun hlt => first _ hpq' hlt reaches'.begins)
        (Nat.le_of_not_lt fun hlt => first' _ hpq hlt reaches.begins)
      subst hq
      obtain ⟨rfl, rfl⟩ := reaches.unique reaches'
      rw [ih after']

end Scan

section Pieces

variable {text : List Char} {p q e : Nat} {kind : RunKind} {ps post : List Piece} {piece : Piece}

theorem Reaches.bounds (h : Reaches text q kind e) : q < e ∧ e ≤ text.length := by
  have hlt {r : Nat} {c : Char} (h : text[r]? = some c) : r < text.length :=
    (List.getElem?_eq_some_iff.1 h).1
  have hends {e : Nat} (h : LiteralEnds text q e) : q < e + 1 ∧ e + 1 ≤ text.length := by
    obtain ⟨hlater, c, -, -, he⟩ := h.again
    have := hlt he
    omega
  cases h with
  | opens _ second =>
    have := hlt second
    omega
  | closes _ second =>
    have := hlt second
    omega
  | single _ ends => exact hends ends
  | double _ ends => exact hends ends

theorem Reaches.ne_characters (h : Reaches text q kind e) : kind ≠ .characters := by
  cases h <;> nofun

theorem drop_eq_slice_append (h : p ≤ q) : text.drop p = slice text p q ++ text.drop q := by
  rw [slice, List.drop_take]
  conv_lhs => rw [← List.take_append_drop (q - p) (text.drop p)]
  rw [List.drop_drop, Nat.add_sub_cancel' h]

theorem flatMap_between (skipped : List Char) :
    (Piece.between skipped).flatMap Piece.text = skipped := by
  cases skipped <;> simp [Piece.between]

theorem Scans.flatMap_text (h : Scans text p ps) : ps.flatMap Piece.text = text.drop p := by
  induction h with
  | done stop => exact (List.drop_eq_nil_of_le stop).symm
  | rest more plain => simp
  | run hpq first reaches after ih =>
    rw [List.flatMap_append, flatMap_between, List.flatMap_cons, ih,
      ← drop_eq_slice_append (Nat.le_of_lt reaches.bounds.1), ← drop_eq_slice_append hpq]

theorem Scans.ne_nil (h : Scans text p ps) : ∀ piece ∈ ps, piece.text ≠ [] := by
  induction h with
  | done => simp
  | rest more _ => simpa using more
  | @run p q e kind ps hpq first reaches after ih =>
    have hmatch : slice text q e ≠ [] := by
      have := reaches.bounds
      simp only [slice, ne_eq, List.drop_eq_nil_iff, List.length_take]
      omega
    intro piece hpiece
    rcases List.mem_append.1 hpiece with hpiece | hpiece
    · rw [Piece.between] at hpiece
      split at hpiece
      · cases hpiece
      · rename_i hfull
        rw [List.mem_singleton.1 hpiece]
        exact fun hnil => hfull (List.isEmpty_iff.2 hnil)
    · rcases List.mem_cons.1 hpiece with rfl | hpiece
      · exact hmatch
      · exact ih piece hpiece

/-- Characters never follow characters. -/
theorem Scans.isChain (h : Scans text p ps) :
    ps.IsChain fun x y => ¬(x.kind = .characters ∧ y.kind = .characters) := by
  induction h with
  | done => exact .nil
  | rest => exact .singleton _
  | @run p q e kind ps hpq first reaches after ih =>
    have hmatch : (⟨kind, slice text q e⟩ :: ps).IsChain
        fun x y => ¬(x.kind = .characters ∧ y.kind = .characters) :=
      List.isChain_cons.2 ⟨fun _ _ h => reaches.ne_characters h.1, ih⟩
    rw [Piece.between]
    split
    · exact hmatch
    · refine List.isChain_cons.2 ⟨fun y hy h => ?_, hmatch⟩
      cases hy
      exact reaches.ne_characters h.2

theorem Scans.exists_plain (h : Scans text p ps) (hpost : piece :: post <:+ ps)
    (hkind : piece.kind = .characters) {x y : List Char} {c : Char}
    (htext : piece.text = x ++ c :: y) :
    ∃ r, ¬Begins text r ∧ text.drop r = c :: (y ++ post.flatMap Piece.text) := by
  have hplace {p : Nat} (hdrop : text.drop p = piece.text ++ post.flatMap Piece.text) :
      text.drop (p + x.length) = c :: (y ++ post.flatMap Piece.text) := by
    rw [← List.drop_drop, hdrop, htext, List.append_assoc, List.drop_left, List.cons_append]
  induction h with
  | done => simp at hpost
  | @rest p more plain =>
    obtain ⟨rfl, rfl⟩ : piece = ⟨.characters, text.drop p⟩ ∧ post = [] := by
      simpa [List.suffix_cons_iff] using hpost
    exact ⟨p + x.length, plain _ (Nat.le_add_right ..), hplace (by simp)⟩
  | @run p q e kind ps hpq first reaches after ih =>
    have hwhole := (Scans.run hpq first reaches after).flatMap_text
    have hrest (hpost : piece :: post <:+ ⟨kind, slice text q e⟩ :: ps) :
        ∃ r, ¬Begins text r ∧ text.drop r = c :: (y ++ post.flatMap Piece.text) := by
      rcases List.suffix_cons_iff.1 hpost with he | hpost
      · cases he
        exact absurd hkind reaches.ne_characters
      · exact ih hpost
    rw [Piece.between] at hpost hwhole
    split at hpost
    · exact hrest hpost
    · rename_i hfull
      rcases List.suffix_cons_iff.1 hpost with he | hpost
      · obtain ⟨rfl, rfl⟩ := List.cons.inj he
        rw [if_neg hfull] at hwhole
        refine ⟨p + x.length, first _ (Nat.le_add_right ..) ?_, hplace hwhole.symm⟩
        have hlength := congrArg List.length htext
        simp only [slice, List.length_drop, List.length_take, List.length_append,
          List.length_cons] at hlength
        omega
      · exact hrest hpost

end Pieces

end Expression

namespace Run

/-- A run without its line. -/
def piece (r : Run) : Piece := ⟨r.kind, r.value.toList⟩

/-- How many line breaks some runs hold. -/
def breaks (rs : List Run) : Nat := lineBreaks (rs.flatMap fun r => r.value.toList)

end Run

namespace Scanner

variable {s : Scanner} {ps : List Piece}

theorem runs_cons (s : Scanner) (p : Piece) (ps : List Piece) :
    s.runs (p :: ps)
      = (⟨p.kind, String.ofList p.text, s.line⟩ :: ((s.pass p).runs ps).1,
        ((s.pass p).runs ps).2) :=
  rfl

theorem map_piece_runs (s : Scanner) (ps : List Piece) : (s.runs ps).1.map Run.piece = ps := by
  induction ps generalizing s with
  | nil => rfl
  | cons p ps ih => simp [runs_cons, ih, Run.piece]

/-- A run starts on the line that the runs before it lead to. -/
theorem line_of_runs {before after : List Run} {r : Run}
    (h : (s.runs ps).1 = before ++ r :: after) : r.line = s.line + Run.breaks before := by
  induction ps generalizing s before with
  | nil => simp [runs] at h
  | cons p ps ih =>
    rw [runs_cons] at h
    cases before with
    | nil =>
      obtain ⟨rfl, -⟩ := List.cons.inj h
      simp [Run.breaks, lineBreaks]
    | cons b before =>
      obtain ⟨rfl, htail⟩ := List.cons.inj h
      rw [ih htail, pass, Run.breaks, Run.breaks, List.flatMap_cons, lineBreaks_append,
        String.toList_ofList]
      push_cast
      ring

theorem flatMap_runs (s : Scanner) (ps : List Piece) :
    ((s.runs ps).1.flatMap fun r => r.value.toList) = ps.flatMap Piece.text := by
  conv_rhs => rw [← map_piece_runs s ps, List.flatMap_map]
  rfl

end Scanner

open Expression

section Runs

variable {text : List Char} {runs after : List Run} {r : Run} {x y : List Char} {c : Char}

theorem Expression.Scans.exists_plain_run (hscan : Scans text 0 (runs.map Run.piece))
    (hr : r :: after <:+ runs) (hkind : r.kind = .characters)
    (htext : r.value.toList = x ++ c :: y) :
    ∃ q, ¬Begins text q
      ∧ text.drop q = c :: (y ++ after.flatMap fun s => s.value.toList) := by
  obtain ⟨q, hq, hdrop⟩ := hscan.exists_plain (hr.map Run.piece) hkind htext
  exact ⟨q, hq, by rw [hdrop, List.flatMap_map]; rfl⟩

theorem Expression.Scans.not_infix (hscan : Scans text 0 (runs.map Run.piece)) (hr : r ∈ runs)
    (hkind : r.kind = .characters) :
    ¬['{', '%'] <:+: r.value.toList ∧ ¬['%', '}'] <:+: r.value.toList := by
  obtain ⟨before, after, hsplit⟩ := List.append_of_mem hr
  have hsuffix : r :: after <:+ runs := ⟨before, hsplit.symm⟩
  constructor
  · rintro ⟨x, y, htext⟩
    rw [List.append_assoc] at htext
    obtain ⟨q, hq, hdrop⟩ := hscan.exists_plain_run hsuffix hkind htext.symm
    exact hq (.opens (getElem?_of_drop hdrop 0) (getElem?_of_drop hdrop 1))
  · rintro ⟨x, y, htext⟩
    rw [List.append_assoc] at htext
    obtain ⟨q, hq, hdrop⟩ := hscan.exists_plain_run hsuffix hkind htext.symm
    exact hq (.closes (getElem?_of_drop hdrop 0) (getElem?_of_drop hdrop 1))

theorem Expression.Scans.quote_notMem (hscan : Scans text 0 (runs.map Run.piece))
    (hr : r :: after <:+ runs) (hkind : r.kind = .characters)
    (htext : r.value.toList = x ++ c :: y) (hc : isQuote c) :
    c ∉ y ∧ ∀ s ∈ after, c ∉ s.value.toList := by
  obtain ⟨q, hq, hdrop⟩ := hscan.exists_plain_run hr hkind htext
  have hnot : c ∉ y ++ after.flatMap fun s => s.value.toList := by
    intro hmem
    obtain ⟨j, hj⟩ := List.mem_iff_getElem?.1 hmem
    exact hq (.quote ((repeats_iff hdrop hc).2 ⟨j, rfl, hj⟩))
  rw [List.mem_append, not_or, List.mem_flatMap] at hnot
  exact ⟨hnot.1, fun s hs hmem => hnot.2 ⟨s, hs, hmem⟩⟩

end Runs

/-- The runs of a text from a line on are those of the scan from left to right, which the search for
the pattern finds too. Characters hold no delimiter, and no quote that occurs again further on. -/
structure IsScanOf (text : String) (line : Int) (runs : List Run) : Prop where
  scans : ∀ ps, Scans text.toList 0 ps ↔ ps = runs.map Run.piece
  searched : Piece.searched 0 text.toList = runs.map Run.piece
  join : String.join (runs.map Run.value) = text
  nonempty : ∀ r ∈ runs, r.value ≠ ""
  apart : runs.IsChain fun r s => ¬(r.kind = .characters ∧ s.kind = .characters)
  plain : ∀ r ∈ runs, r.kind = .characters →
    ¬['{', '%'] <:+: r.value.toList ∧ ¬['%', '}'] <:+: r.value.toList
  lone : ∀ r after, r :: after <:+ runs → r.kind = .characters →
    ∀ x c y, r.value.toList = x ++ c :: y → isQuote c →
      c ∉ y ∧ ∀ s ∈ after, c ∉ s.value.toList
  lines : ∀ before r after, runs = before ++ r :: after → r.line = line + Run.breaks before

theorem splitText_isScanOf (text : String) (line : Int) :
    IsScanOf text line (splitText text line) := by
  have hpieces : (splitText text line).map Run.piece = Piece.split text.toList :=
    Scanner.map_piece_runs _ _
  have hscan : Scans text.toList 0 ((splitText text line).map Run.piece) := by
    rw [hpieces, ← Piece.searched_eq_split 0]
    exact scans_searched text.toList 0 0
  refine
    { scans := fun ps => ⟨fun h => h.unique hscan, fun h => h ▸ hscan⟩
      searched := by rw [hpieces, Piece.searched_eq_split]
      join := ?_
      nonempty := ?_
      apart := (List.isChain_map _).1 hscan.isChain
      plain := fun r hr hkind => hscan.not_infix hr hkind
      lone := fun r after hr hkind x c y htext hc => hscan.quote_notMem hr hkind htext hc
      lines := fun before r after h => Scanner.line_of_runs h }
  · rw [← String.toList_inj, String.toList_join, List.flatMap_map]
    exact (Scanner.flatMap_runs _ _).trans (Piece.flatMap_split text.toList)
  · intro r hr hempty
    exact hscan.ne_nil r.piece (List.mem_map_of_mem hr) (by rw [Run.piece, hempty]; rfl)

end TemplateLexer
