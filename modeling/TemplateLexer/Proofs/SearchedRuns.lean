import TemplateLexer.Expression.Searched

set_option autoImplicit false

namespace TemplateLexer

namespace Piece

variable {q c : Char} {cs : List Char}

theorem lastQuote_cons_of_ne (h : c ≠ q) :
    lastQuote q (c :: cs) = (lastQuote q cs).map fun (body, rest) => (c :: body, rest) := by
  rw [lastQuote]
  cases lastQuote q cs <;> simp [h]

theorem firstBare_cons_of_ne {escaped : Bool} (h : c ≠ q) :
    firstBare q escaped (c :: cs)
      = (firstBare q (c == '\\') cs).map fun (body, rest) => (c :: body, rest) := by
  rw [firstBare, if_neg fun hq => h hq.1]

theorem firstBare_eq_of_head (escaped : Bool) (h : cs.head? ≠ some q) :
    firstBare q escaped cs = firstBare q false cs := by
  cases cs with
  | nil => rfl
  | cons c cs =>
    have hc : c ≠ q := fun he => h (congrArg some he)
    rw [firstBare_cons_of_ne hc, firstBare_cons_of_ne hc]

theorem literal_cons_self : literal q (q :: cs) = some ([q], cs) := by
  rw [literal, firstBare, if_pos ⟨rfl, rfl⟩, Option.some_or]

theorem literal_cons_of_ne (h : c ≠ q) (hescape : c = '\\' → cs.head? ≠ some q) :
    literal q (c :: cs) = (literal q cs).map fun (body, rest) => (c :: body, rest) := by
  have hbare : firstBare q (c == '\\') cs = firstBare q false cs := by
    by_cases hc : c = '\\'
    · exact firstBare_eq_of_head _ (hescape hc)
    · rw [beq_false_of_ne hc]
  rw [literal, firstBare_cons_of_ne h, hbare, lastQuote_cons_of_ne h, ← Option.map_or, literal]

theorem literal_escaped (h : q ≠ '\\') :
    literal q ('\\' :: q :: cs)
      = (((literal q cs).map fun (body, rest) => (q :: body, rest)).or (some ([q], cs))).map
          fun (body, rest) => ('\\' :: body, rest) := by
  have hbare : firstBare q true (q :: cs)
      = (firstBare q false cs).map fun (body, rest) => (q :: body, rest) := by
    rw [firstBare, if_neg (by simp), beq_false_of_ne h]
  have hlast : lastQuote q (q :: cs)
      = ((lastQuote q cs).map fun (body, rest) => (q :: body, rest)).or (some ([q], cs)) := by
    rw [lastQuote]
    cases lastQuote q cs <;> simp
  rw [literal, firstBare_cons_of_ne h.symm, lastQuote_cons_of_ne h.symm, ← Option.map_or,
    beq_self_eq_true, hbare, hlast, ← Option.or_assoc, ← Option.map_or, literal]

theorem literal_escaped_of_ne (h : q ≠ '\\') (hc : c ≠ q) (hback : c ≠ '\\') :
    literal q ('\\' :: c :: cs)
      = ((literal q cs).map fun (body, rest) => (c :: body, rest)).map
          fun (body, rest) => ('\\' :: body, rest) := by
  have hhead : (c :: cs).head? ≠ some q := fun he => hc (Option.some.inj he)
  rw [literal_cons_of_ne h.symm fun _ => hhead, literal_cons_of_ne hc fun he => absurd he hback]

end Piece

namespace Pattern

variable {n : Nat} {c d q o : Char} {cs rest : List Char} {p : TextPlace}

@[simp] theorem holds_between_self : CharRange.holds false c (.between d d) = (c == d) := by
  rw [CharRange.holds, Bool.false_and, Bool.or_false, Bool.eq_iff_iff, Bool.and_eq_true,
    decide_eq_true_iff, decide_eq_true_iff, beq_iff_eq]
  exact ⟨fun h => Char.le_antisymm h.2 h.1, fun h => h ▸ ⟨Char.le_refl _, Char.le_refl _⟩⟩

@[simp] theorem ends_among_nil (negated : Bool) :
    (among negated cs).ends false ⟨n, []⟩ = [] := rfl

@[simp] theorem ends_among_cons (negated : Bool) :
    (among negated cs).ends false ⟨n, c :: rest⟩
      = if cs.contains c != negated then [⟨n + 1, rest⟩] else [] := by
  simp only [among, ends, List.any_map, Function.comp_def, holds_between_self,
    List.contains_eq_any_beq]

@[simp] theorem ends_char_nil : (char d).ends false ⟨n, []⟩ = [] := rfl

@[simp] theorem ends_char_cons :
    (char d).ends false ⟨n, c :: rest⟩ = if c = d then [⟨n + 1, rest⟩] else [] := by
  simp [char, ends]

theorem ends_foldl_both (parts : List Pattern) (first : Pattern) :
    (parts.foldl both first).ends false p
      = parts.foldl (fun places part => places.flatMap (part.ends false)) (first.ends false p) := by
  induction parts generalizing first with
  | nil => rfl
  | cons part parts ih => rw [List.foldl_cons, ih, List.foldl_cons, ends]

theorem ends_inOrder (parts : List Pattern) :
    (inOrder parts).ends false p
      = parts.foldl (fun places part => places.flatMap (part.ends false)) [p] :=
  ends_foldl_both parts empty

theorem ends_literalItem_nil : (literalItem q o).ends false ⟨n, []⟩ = [] := by
  simp [literalItem, ends, ends_inOrder]

theorem ends_literalItem_self (h : q ≠ '\\') :
    (literalItem q o).ends false ⟨n, q :: rest⟩ = [] := by
  simp [literalItem, ends, ends_inOrder, h]

theorem ends_literalItem_of_ne (hq : c ≠ q) (hc : c ≠ '\\') :
    (literalItem q o).ends false ⟨n, c :: rest⟩ = [⟨n + 1, rest⟩] := by
  simp [literalItem, ends, ends_inOrder, hq, hc]

theorem ends_literalItem_backslash (h : ∀ d ∈ rest.head?, d ≠ q ∧ d ≠ o) :
    (literalItem q o).ends false ⟨n, '\\' :: rest⟩ = [⟨n + 1, rest⟩] := by
  cases rest with
  | nil => simp [literalItem, ends, ends_inOrder]
  | cons d rest => simp [literalItem, ends, ends_inOrder, h d rfl]

theorem ends_literalItem_escape (h : d = q ∨ d = o) :
    (literalItem q o).ends false ⟨n, '\\' :: d :: rest⟩ = [⟨n + 2, rest⟩, ⟨n + 1, d :: rest⟩] := by
  simp [literalItem, ends, ends_inOrder, h]

/-- The place after some of the text. -/
def after (n : Nat) (part : List Char × List Char) : TextPlace := ⟨n + part.1.length, part.2⟩

def closings (q o : Char) (fuel : Nat) (p : TextPlace) : List TextPlace :=
  (greedy ((literalItem q o).ends false) fuel p).flatMap ((char q).ends false)

theorem closings_cons (fuel : Nat) :
    closings q o (fuel + 1) ⟨n, c :: rest⟩
      = (((literalItem q o).ends false ⟨n, c :: rest⟩).filter fun p => n < p.before).flatMap
          (closings q o fuel)
        ++ if c = q then [⟨n + 1, rest⟩] else [] := by
  rw [closings, greedy, List.flatMap_append, List.flatMap_assoc, List.flatMap_singleton,
    ends_char_cons]
  rfl

theorem closings_self (h : q ≠ '\\') (fuel : Nat) :
    closings q o fuel ⟨n, q :: rest⟩ = [⟨n + 1, rest⟩] := by
  cases fuel with
  | zero => simp [closings, greedy]
  | succ fuel => simp [closings_cons, ends_literalItem_self h]

theorem map_after_cons (l : Option (List Char × List Char)) :
    (l.map fun (body, rest) => (c :: body, rest)).map (after n) = l.map (after (n + 1)) := by
  cases l with
  | none => rfl
  | some part => simp [after, Nat.add_comm, Nat.add_left_comm]

theorem head?_closings_escape (hq : q ≠ '\\') (hd : d = q ∨ d = o) (fuel : Nat) :
    (closings q o (fuel + 1) ⟨n, '\\' :: d :: rest⟩).head?
      = (closings q o fuel ⟨n + 2, rest⟩).head?.or
        (closings q o fuel ⟨n + 1, d :: rest⟩).head? := by
  rw [closings_cons, ends_literalItem_escape hd, if_neg hq.symm]
  simp [List.head?_append]

theorem head?_closings (hq : q ≠ '\\') (ho : o ≠ '\\') (hqo : o ≠ q) (fuel : Nat) (n : Nat)
    (cs : List Char) (hfuel : cs.length ≤ fuel) :
    (closings q o fuel ⟨n, cs⟩).head? = (Piece.literal q cs).map (after n) := by
  -- The induction follows the fuel, as the repetition does; an escaped quote takes two steps.
  induction fuel generalizing n cs with
  | zero =>
    obtain rfl : cs = [] := by simpa using hfuel
    rfl
  | succ fuel ih =>
    cases cs with
    | nil =>
      simp [closings, greedy, ends_literalItem_nil]
      rfl
    | cons c rest =>
      have hrest : rest.length ≤ fuel := by simpa using hfuel
      by_cases hc : c = q
      · subst hc
        rw [closings_self hq, Piece.literal_cons_self]
        rfl
      · have hplain (hends : (literalItem q o).ends false ⟨n, c :: rest⟩ = [⟨n + 1, rest⟩])
            (hescape : c = '\\' → rest.head? ≠ some q) :
            (closings q o (fuel + 1) ⟨n, c :: rest⟩).head?
              = (Piece.literal q (c :: rest)).map (after n) := by
          rw [closings_cons, hends, Piece.literal_cons_of_ne hc hescape, map_after_cons,
            ← ih (n + 1) rest hrest]
          simp [hc]
        by_cases hback : c = '\\'
        · subst hback
          cases rest with
          | nil =>
            have hnone : ∀ d ∈ ([] : List Char).head?, d ≠ q ∧ d ≠ o := fun d hd => by cases hd
            exact hplain (ends_literalItem_backslash hnone) fun _ he => by cases he
          | cons d more =>
            by_cases hd : d = q ∨ d = o
            · have hmore : more.length ≤ fuel := by
                rw [List.length_cons] at hrest
                omega
              rw [head?_closings_escape hq hd, ih (n + 2) more hmore]
              rcases hd with rfl | rfl
              · rw [closings_self hq, Piece.literal_escaped hq, map_after_cons, Option.map_or,
                  map_after_cons]
                rfl
              · have hback : Piece.literal q (d :: more)
                    = (Piece.literal q more).map fun (body, rest) => (d :: body, rest) :=
                  Piece.literal_cons_of_ne hqo fun h => absurd h ho
                rw [ih (n + 1) (d :: more) hrest, hback, Piece.literal_escaped_of_ne hq hqo ho,
                  map_after_cons, map_after_cons, map_after_cons, Option.or_self]
            · rw [not_or] at hd
              exact hplain (ends_literalItem_backslash fun e he => by cases he; exact hd)
                fun _ he => hd.1 (Option.some.inj he)
        · exact hplain (ends_literalItem_of_ne hc hback) fun h => absurd h hback

theorem ends_literal_nil : (literal q o).ends false ⟨n, []⟩ = [] := by
  simp [literal, ends_inOrder]

theorem ends_literal_cons :
    (literal q o).ends false ⟨n, c :: rest⟩
      = if c = q then closings q o rest.length ⟨n + 1, rest⟩ else [] := by
  rw [literal, ends_inOrder, List.foldl_cons, List.foldl_cons, List.foldl_cons, List.foldl_nil,
    List.flatMap_singleton, ends_char_cons]
  split
  · rw [List.flatMap_singleton, ends, closings]
  · rfl

theorem ends_opens : delimiter.ends false ⟨n, '{' :: '%' :: rest⟩ = [⟨n + 2, rest⟩] := by
  simp [delimiter, ends, ends_inOrder]

theorem ends_closes : delimiter.ends false ⟨n, '%' :: '}' :: rest⟩ = [⟨n + 2, rest⟩] := by
  simp [delimiter, ends, ends_inOrder]

theorem ends_delimiter_of_ne (hopens : ∀ rest, cs ≠ '{' :: '%' :: rest)
    (hcloses : ∀ rest, cs ≠ '%' :: '}' :: rest) : delimiter.ends false ⟨n, cs⟩ = [] := by
  match cs with
  | [] => simp [delimiter, ends, ends_inOrder]
  | [c] =>
    simp only [delimiter, ends, ends_inOrder, List.foldl_cons, List.foldl_nil,
      List.flatMap_singleton, ends_char_cons]
    split <;> split <;> simp
  | c :: d :: rest =>
    have ho : c = '{' → d ≠ '%' := fun hc hd => hopens rest (hc ▸ hd ▸ rfl)
    have hc : c = '%' → d ≠ '}' := fun hc hd => hcloses rest (hc ▸ hd ▸ rfl)
    simp only [delimiter, ends, ends_inOrder, List.foldl_cons, List.foldl_nil,
      List.flatMap_singleton, ends_char_cons]
    split <;> split <;> simp_all

theorem ends_expressionRun :
    expressionRun.ends false p = (literal '\'' '"').ends false p ++ ((literal '"' '\'').ends false p
      ++ delimiter.ends false p) := by
  simp [expressionRun, ends, ends_inOrder]

theorem ends_literal_of_ne (h : ∀ rest, cs ≠ q :: rest) :
    (literal q o).ends false ⟨n, cs⟩ = [] := by
  cases cs with
  | nil => exact ends_literal_nil
  | cons c rest => rw [ends_literal_cons, if_neg fun hc : c = q => h rest (hc ▸ rfl)]

theorem head?_ends_literal (hq : q ≠ '\\') (ho : o ≠ '\\') (hqo : o ≠ q) (kind : RunKind) :
    ((literal q o).ends false ⟨n, q :: rest⟩).head?
      = ((Piece.literal q rest).map fun (body, rest) => ((⟨kind, q :: body⟩ : Piece), rest)).map
          fun (p, rest) => after n (p.text, rest) := by
  rw [ends_literal_cons, if_pos rfl, head?_closings hq ho hqo _ _ _ (Nat.le_refl _),
    ← map_after_cons, Option.map_map, Option.map_map]
  rfl

theorem head?_ends_expressionRun (n : Nat) (cs : List Char) :
    (expressionRun.ends false ⟨n, cs⟩).head?
      = (Piece.leading cs).map fun (p, rest) => after n (p.text, rest) := by
  rw [ends_expressionRun, List.head?_append, List.head?_append]
  unfold Piece.leading
  split
  · rw [ends_literal_of_ne (q := '"') (by simp), ends_delimiter_of_ne (by simp) (by simp),
      head?_ends_literal (by decide) (by decide) (by decide) .singleQuoted]
    simp
  · rw [ends_literal_of_ne (q := '\'') (by simp), ends_delimiter_of_ne (by simp) (by simp),
      head?_ends_literal (by decide) (by decide) (by decide) .doubleQuoted]
    simp
  · rw [ends_literal_of_ne (by simp), ends_literal_of_ne (by simp), ends_opens]
    rfl
  · rw [ends_literal_of_ne (by simp), ends_literal_of_ne (by simp), ends_closes]
    rfl
  · rename_i hsingle hdouble hopens hcloses
    rw [ends_literal_of_ne hsingle, ends_literal_of_ne hdouble, ends_delimiter_of_ne hopens hcloses]
    rfl

theorem find?_of_leading {n : Nat} {cs rest : List Char} {p : Piece}
    (h : Piece.leading cs = some (p, rest)) :
    expressionRun.find? false n cs = some ⟨[], p.text, after n (p.text, rest)⟩ := by
  have htake : cs.take p.text.length = p.text := by
    rw [← Piece.leading_append h, List.take_left]
  unfold find?
  rw [head?_ends_expressionRun, h]
  simp [after, htake]

theorem find?_of_not_leading {n : Nat} {c : Char} {cs : List Char}
    (h : Piece.leading (c :: cs) = none) :
    expressionRun.find? false n (c :: cs)
      = (expressionRun.find? false (n + 1) cs).map
          fun f => { f with skipped := c :: f.skipped } := by
  rw [find?.eq_def, head?_ends_expressionRun, h]
  rfl

theorem find?_nil {n : Nat} : expressionRun.find? false n [] = none := by
  unfold find?
  rw [head?_ends_expressionRun]
  rfl

end Pattern

namespace Piece

theorem kindOf_leading {cs rest : List Char} {p : Piece} (h : leading cs = some (p, rest)) :
    kindOf p.text = p.kind := by
  unfold leading at h
  split at h
  all_goals
    simp only [Option.map_eq_some_iff, Option.some.injEq, Prod.mk.injEq, reduceCtorEq] at h
  · obtain ⟨_, -, rfl, -⟩ := h
    simp [kindOf]
  · obtain ⟨_, -, rfl, -⟩ := h
    simp [kindOf]
  · rw [← h.1]
    rfl
  · rw [← h.1]
    rfl

theorem kindOf_ne_characters (text : List Char) : kindOf text ≠ .characters := by
  unfold kindOf
  split
  · simp
  · split
    · simp
    · split <;> simp

theorem plain_between {c : Char} {skipped : List Char} {ps : List Piece}
    (h : ∀ p ∈ ps.head?, p.kind ≠ .characters) :
    plain c (between skipped ++ ps) = between (c :: skipped) ++ ps := by
  cases skipped with
  | nil =>
    match ps, h with
    | [], _ => rfl
    | ⟨kind, text⟩ :: ps, h =>
      have hkind : kind ≠ .characters := h _ rfl
      cases kind with
      | characters => exact absurd rfl hkind
      | opens | closes | singleQuoted | doubleQuoted => rfl
  | cons d skipped => rfl

theorem split_cons_of_leading {c : Char} {cs rest : List Char} {p : Piece}
    (h : leading (c :: cs) = some (p, rest)) : split (c :: cs) = p :: split rest := by
  rw [split]
  split
  · rename_i h'
    cases h.symm.trans h'
    rfl
  · rename_i h'
    cases h.symm.trans h'

theorem split_cons_of_not_leading {c : Char} {cs : List Char} (h : leading (c :: cs) = none) :
    split (c :: cs) = plain c (split cs) := by
  rw [split]
  split
  · rename_i h'
    cases h.symm.trans h'
  · rfl

theorem split_of_find? {n : Nat} {cs : List Char} {f : Pattern.Found}
    (h : Pattern.expressionRun.find? false n cs = some f) :
    split cs = between f.skipped ++ ⟨kindOf f.matched, f.matched⟩ :: split f.last.rest := by
  induction cs generalizing n f with
  | nil =>
    rw [Pattern.find?_nil] at h
    cases h
  | cons c cs ih =>
    cases hlead : leading (c :: cs) with
    | some found =>
      rw [Pattern.find?_of_leading hlead] at h
      cases h
      rw [split_cons_of_leading hlead, kindOf_leading hlead]
      rfl
    | none =>
      rw [Pattern.find?_of_not_leading hlead] at h
      obtain ⟨g, hg, rfl⟩ := Option.map_eq_some_iff.1 h
      rw [split_cons_of_not_leading hlead, ih hg]
      exact plain_between fun p hp => by
        cases hp
        exact kindOf_ne_characters g.matched

theorem split_of_not_found {n : Nat} {cs : List Char}
    (h : Pattern.expressionRun.find? false n cs = none) : split cs = between cs := by
  induction cs generalizing n with
  | nil =>
    rw [split]
    rfl
  | cons c cs ih =>
    cases hlead : leading (c :: cs) with
    | some found =>
      rw [Pattern.find?_of_leading hlead] at h
      cases h
    | none =>
      rw [Pattern.find?_of_not_leading hlead, Option.map_eq_none_iff] at h
      have hplain : plain c (between cs ++ []) = between (c :: cs) ++ [] :=
        plain_between fun p hp => by cases hp
      rw [List.append_nil, List.append_nil] at hplain
      rw [split_cons_of_not_leading hlead, ih h, hplain]

/-- Cutting a text in one go finds the pieces that searching for the pattern finds. -/
theorem searched_eq_split (n : Nat) (cs : List Char) : searched n cs = split cs := by
  fun_induction searched n cs with
  | case1 n cs hempty =>
    rw [List.isEmpty_iff.1 hempty, split]
  | case2 n cs hfull hnone =>
    rw [split_of_not_found hnone, between, if_neg hfull]
  | case3 n cs hfull f hfound ih => rw [ih, split_of_find? hfound]

end Piece

end TemplateLexer
