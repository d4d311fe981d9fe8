import TemplateLexer.Selection.Expr

set_option autoImplicit false

namespace TemplateLexer.Query

mutual

/-- Whether an expression needs no brackets where operators of a level and above are expected. -/
def Expr.fits : Expr → (level : Nat) → Bool
  | .literal _, _ | .here, _ | .first _ _ _, _ => true
  | .call f args, _ => f.accepts args && fitAll args
  | .group e, _ => e.fits 0
  | .binary op left right, level =>
    level ≤ op.level && op.accepts left right && left.fits op.level && right.fits (op.level + 1)
  | .next path _ _ _, _ => path.isPath && path.fits 0
  | .filtered path predicate, _ => path.isPath && path.fits 0 && predicate.fits 0

def fitAll : List Expr → Bool
  | [] => true
  | e :: rest => e.fits 0 && fitAll rest

end

def endsAt (level : Nat) : List Lexeme → Bool
  | [] => true
  | .mark .openingTest :: _ | .mark .slash :: _ | .mark .slashes :: _ => false
  | l :: _ => (Operator.of? l).all (·.level ≤ level)

section Ends

variable {e path : Expr} {level low fuel : Nat} {rest : List Lexeme}

theorem endsAt_lexeme (op : Operator) (rest : List Lexeme) :
    endsAt op.level (op.lexeme :: rest) = true := by
  cases op <;> rfl

theorem of?_lexeme (op : Operator) : Operator.of? op.lexeme = some op := by
  cases op <;> rfl

theorem endsAt_mono (h : endsAt low rest = true) (hle : low ≤ level) :
    endsAt level rest = true := by
  cases rest with
  | nil => rfl
  | cons l rest =>
    have hall : (Operator.of? l).all (·.level ≤ low) → (Operator.of? l).all (·.level ≤ level) := by
      cases Operator.of? l with
      | none => exact id
      | some op => simpa using fun h => Nat.le_trans h hle
    unfold endsAt at h ⊢
    split at h <;> simp_all

theorem operators?_of_endsAt (h : endsAt low rest = true) (hlow : low < level) :
    operators? (fuel + 1) level e rest = some (e, rest) := by
  cases rest with
  | nil => rfl
  | cons l rest =>
    have hlevel : ∀ op, Operator.of? l = some op → ¬level ≤ op.level := by
      intro op hop
      have hall : (Operator.of? l).all (·.level ≤ low) = true := by
        unfold endsAt at h
        split at h <;> simp_all
      rw [hop, Option.all_some, decide_eq_true_eq] at hall
      omega
    rw [operators?]
    split
    · rfl
    · rename_i op hop
      rw [if_neg (hlevel op hop)]

theorem steps?_of_endsAt (h : endsAt low rest = true) :
    steps? (fuel + 1) path rest = some (path, rest) := by
  rw [steps?.eq_def]
  split <;> simp_all [endsAt]

end Ends

section Reading

/-- How an expression is read in front of anything that does not go on with it: as an operand if it
is one, and otherwise up to the operators behind it. A path is read up to its next step. -/
structure Reads (e : Expr) : Prop where
  expr : ∀ (low fuel : Nat) (rest : List Lexeme) {level : Nat}, e.fits level = true → low ≤ level →
    endsAt level rest = true → 3 * e.lexemes.length ≤ fuel →
    ∃ left, fuel ≤ left + 3 * e.lexemes.length
      ∧ expr? fuel low (e.lexemes ++ rest) = operators? left low e rest
  path : ∀ (fuel : Nat) (rest : List Lexeme) {level : Nat}, e.isPath = true → e.fits level = true →
    3 * e.lexemes.length ≤ fuel + 1 →
    ∃ left, fuel ≤ left + e.lexemes.length
      ∧ operand? fuel (e.lexemes ++ rest) = steps? left e rest

variable {e : Expr} {level fuel : Nat} {l : Lexeme} {rest : List Lexeme}

theorem Reads.of_operand
    (hoperand : ∀ (fuel : Nat) (rest : List Lexeme) {level : Nat}, e.fits level = true →
      endsAt level rest = true → 3 * e.lexemes.length ≤ fuel + 1 →
      operand? fuel (e.lexemes ++ rest) = some (e, rest))
    (hpath : e.isPath = false) : Reads e where
  expr := by
    intro low fuel rest level hfits _ hends hfuel
    have hpos := length_lexemes_pos e
    obtain ⟨left, rfl⟩ : ∃ left, fuel = left + 1 := ⟨fuel - 1, by omega⟩
    exact ⟨left, by omega, expr?_succ low (hoperand left rest hfits hends (by omega))⟩
  path := by
    intro fuel rest level h
    rw [hpath] at h
    cases h

theorem Reads.of_path
    (hpath : ∀ (fuel : Nat) (rest : List Lexeme) {level : Nat}, e.fits level = true →
      3 * e.lexemes.length ≤ fuel + 1 → ∃ left, fuel ≤ left + e.lexemes.length
        ∧ operand? fuel (e.lexemes ++ rest) = steps? left e rest) : Reads e where
  expr := by
    intro low fuel rest level hfits _ hends hfuel
    have hpos := length_lexemes_pos e
    obtain ⟨left, rfl⟩ : ∃ left, fuel = left + 1 := ⟨fuel - 1, by omega⟩
    obtain ⟨k, hk, hsteps⟩ := hpath left rest hfits (by omega)
    obtain ⟨j, rfl⟩ : ∃ j, k = j + 1 := ⟨k - 1, by omega⟩
    rw [steps?_of_endsAt hends] at hsteps
    exact ⟨left, by omega, expr?_succ low hsteps⟩
  path := fun fuel rest _ _ hfits hfuel => hpath fuel rest hfits hfuel

theorem Reads.whole (h : Reads e) (fuel : Nat) (hfits : e.fits 0 = true)
    (hends : endsAt 0 rest = true) (hnone : ∀ l ∈ rest.head?, Operator.of? l = none)
    (hfuel : 3 * e.lexemes.length < fuel) :
    expr? fuel 0 (e.lexemes ++ rest) = some (e, rest) := by
  obtain ⟨left, hleft, hread⟩ := h.expr 0 fuel rest hfits (Nat.le_refl 0) hends
    (Nat.le_of_lt hfuel)
  obtain ⟨k, rfl⟩ : ∃ k, left = k + 1 := ⟨left - 1, by omega⟩
  rw [hread]
  cases rest with
  | nil => rfl
  | cons l rest =>
    rw [operators?, hnone l rfl]

theorem reads_binary {op : Operator} {left right : Expr} (hleft : Reads left)
    (hright : Reads right) : Reads (.binary op left right) where
  expr := by
    intro low fuel rest level hfits hlow hends hfuel
    simp only [Expr.fits, Bool.and_eq_true, decide_eq_true_eq] at hfits
    obtain ⟨⟨⟨hlevel, haccepts⟩, hfitsLeft⟩, hfitsRight⟩ := hfits
    have hlength : (Expr.binary op left right).lexemes.length
        = left.lexemes.length + right.lexemes.length + 1 := by
      simp only [Expr.lexemes, List.length_append, List.length_cons]
      omega
    have hpos := length_lexemes_pos right
    rw [hlength] at hfuel ⊢
    obtain ⟨k, hk, hread⟩ := hleft.expr low fuel (op.lexeme :: (right.lexemes ++ rest)) hfitsLeft
      (Nat.le_trans hlow hlevel) (endsAt_lexeme op _) (by omega)
    obtain ⟨k, rfl⟩ : ∃ j, k = j + 1 := ⟨k - 1, by omega⟩
    obtain ⟨j, hj, hreadRight⟩ := hright.expr (op.level + 1) k rest hfitsRight (Nat.le_refl _)
      (endsAt_mono hends (Nat.le_succ_of_le hlevel)) (by omega)
    obtain ⟨j, rfl⟩ : ∃ i, j = i + 1 := ⟨j - 1, by omega⟩
    rw [operators?_of_endsAt hends (Nat.lt_succ_of_le hlevel)] at hreadRight
    refine ⟨k, by omega, ?_⟩
    rw [Expr.lexemes, List.append_assoc, List.cons_append, hread, operators?, of?_lexeme]
    simp only [if_pos (Nat.le_trans hlow hlevel), hreadRight, haccepts, if_true,
      Option.bind_eq_bind, Option.bind_some]
  path := nofun

theorem reads_group (h : Reads e) : Reads (.group e) := by
  refine .of_operand (fun fuel rest level hfits _ hfuel => ?_) rfl
  have hlength : (Expr.group e).lexemes.length = e.lexemes.length + 2 := by simp [Expr.lexemes]
  obtain ⟨fuel, rfl⟩ : ∃ n, fuel = n + 1 := ⟨fuel - 1, by omega⟩
  have hread : expr? fuel 0 (e.lexemes ++ .mark .closing :: rest)
      = some (e, .mark .closing :: rest) :=
    h.whole fuel hfits rfl (by rintro l ⟨⟩; rfl) (by omega)
  rw [Expr.lexemes, List.cons_append, List.append_assoc, List.singleton_append, operand?, hread]
  rfl

theorem reads_first (st : Start) (axis : Axis) (test : NodeTest) :
    Reads (.first st axis test) := by
  refine .of_path fun fuel rest level _ hfuel => ?_
  have hpos := length_lexemes_pos (.first st axis test)
  obtain ⟨fuel, rfl⟩ : ∃ n, fuel = n + 1 := ⟨fuel - 1, by omega⟩
  exact ⟨fuel, by omega, operand?_first fuel st axis test⟩

theorem reads_next {path : Expr} (far : Bool) (axis : Axis) (test : NodeTest) (h : Reads path) :
    Reads (.next path far axis test) := by
  refine .of_path fun fuel rest level hfits hfuel => ?_
  have hlength : (Expr.next path far axis test).lexemes.length
      = path.lexemes.length + (stepLexemes axis test).length + 1 := by
    simp only [Expr.lexemes, List.length_append, List.length_cons]
    omega
  simp only [Expr.fits, Bool.and_eq_true] at hfits
  obtain ⟨left, hleft, hread⟩ := h.path fuel
    (.mark (if far then .slashes else .slash) :: (stepLexemes axis test ++ rest)) hfits.1 hfits.2
    (by omega)
  obtain ⟨left, rfl⟩ : ∃ n, left = n + 1 := ⟨left - 1, by omega⟩
  refine ⟨left, by omega, ?_⟩
  rw [Expr.lexemes, List.append_assoc, List.cons_append, hread]
  cases far <;> simp [steps?, step?_stepLexemes]

theorem reads_filtered {path predicate : Expr} (h : Reads path) (hpredicate : Reads predicate) :
    Reads (.filtered path predicate) := by
  refine .of_path fun fuel rest level hfits hfuel => ?_
  have hlength : (Expr.filtered path predicate).lexemes.length
      = path.lexemes.length + predicate.lexemes.length + 2 := by
    simp only [Expr.lexemes, List.length_append, List.length_cons, List.length_nil]
    omega
  simp only [Expr.fits, Bool.and_eq_true] at hfits
  obtain ⟨left, hleft, hread⟩ := h.path fuel
    (.mark .openingTest :: (predicate.lexemes ++ .mark .closingTest :: rest))
    hfits.1.1 hfits.1.2 (by omega)
  obtain ⟨left, rfl⟩ : ∃ n, left = n + 1 := ⟨left - 1, by omega⟩
  have htest : expr? left 0 (predicate.lexemes ++ .mark .closingTest :: rest)
      = some (predicate, .mark .closingTest :: rest) :=
    hpredicate.whole left hfits.2 rfl (by rintro l ⟨⟩; rfl) (by omega)
  refine ⟨left, by omega, ?_⟩
  rw [Expr.lexemes, List.append_assoc, List.cons_append, List.append_assoc, List.singleton_append,
    hread, steps?, htest]
  rfl

theorem Reads.argument (h : Reads e) (args : List Expr) (rest : List Lexeme)
    (hfits : e.fits 0 = true) (hfuel : 3 * e.lexemes.length < fuel) :
    expr? fuel 0 (e.lexemes ++ (moreLexemesOf args ++ .mark .closing :: rest))
      = some (e, moreLexemesOf args ++ .mark .closing :: rest) := by
  have hends : endsAt 0 (moreLexemesOf args ++ .mark .closing :: rest) = true := by
    cases args <;> rfl
  exact h.whole fuel hfits hends (by cases args <;> (rintro l ⟨⟩; rfl)) (by omega)

theorem moreArguments?_lexemes {args : List Expr} (rest : List Lexeme) (h : ∀ e ∈ args, Reads e)
    (hfits : fitAll args = true) (hfuel : 3 * (moreLexemesOf args).length < fuel) :
    moreArguments? fuel (moreLexemesOf args ++ .mark .closing :: rest) = some (args, rest) := by
  induction args generalizing fuel with
  | nil =>
    obtain ⟨fuel, rfl⟩ : ∃ n, fuel = n + 1 := ⟨fuel - 1, by omega⟩
    rfl
  | cons e args ih =>
    simp only [fitAll, Bool.and_eq_true] at hfits
    simp only [moreLexemesOf, List.length_cons, List.length_append] at hfuel
    obtain ⟨fuel, rfl⟩ : ∃ n, fuel = n + 1 := ⟨fuel - 1, by omega⟩
    have hread := (h e (List.mem_cons_self ..)).argument args rest hfits.1
      (show _ < fuel by omega)
    rw [moreLexemesOf, List.cons_append, List.append_assoc, moreArguments?, hread]
    simp [ih (fun e he => h e (List.mem_cons_of_mem _ he)) hfits.2 (show _ < fuel by omega)]

theorem arguments?_lexemes {args : List Expr} (rest : List Lexeme) (h : ∀ e ∈ args, Reads e)
    (hfits : fitAll args = true) (hfuel : 3 * (lexemesOf args).length + 1 < fuel) :
    arguments? fuel (lexemesOf args ++ .mark .closing :: rest) = some (args, rest) := by
  obtain ⟨fuel, rfl⟩ : ∃ n, fuel = n + 1 := ⟨fuel - 1, by omega⟩
  cases args with
  | nil => rfl
  | cons e args =>
    simp only [fitAll, Bool.and_eq_true] at hfits
    simp only [lexemesOf, List.length_append] at hfuel
    have hread := (h e (List.mem_cons_self ..)).argument args rest hfits.1
      (show _ < fuel by omega)
    have hmore := moreArguments?_lexemes rest
      (fun e he => h e (List.mem_cons_of_mem _ he)) hfits.2 (show _ < fuel by omega)
    obtain ⟨l, ls, hl, hne⟩ := exists_lexemes e
    rw [hl] at hread
    rw [lexemesOf, List.append_assoc, hl, List.cons_append, arguments?]
    · rw [List.cons_append] at hread
      simp [hread, hmore]
    · rintro rest ⟨⟩
      exact hne rfl

theorem reads_call {args : List Expr} (f : Function) (h : ∀ e ∈ args, Reads e) :
    Reads (.call f args) := by
  refine .of_operand (fun fuel rest level hfits _ hfuel => ?_) rfl
  have hlength : (Expr.call f args).lexemes.length = (lexemesOf args).length + 3 := by
    simp [Expr.lexemes]
  obtain ⟨fuel, rfl⟩ : ∃ n, fuel = n + 1 := ⟨fuel - 1, by omega⟩
  simp only [Expr.fits, Bool.and_eq_true] at hfits
  have hcalled : called? (.name f.name :: .mark .opening
      :: (lexemesOf args ++ [.mark .closing]) ++ rest)
      = some (f, lexemesOf args ++ .mark .closing :: rest) := by
    cases f <;> simp [called?, Function.name, Function.named?]
  have hargs := arguments?_lexemes rest h hfits.2 (show _ < fuel by omega)
  rw [Expr.lexemes, operand?, hcalled]
  · simp [hargs, hfits.1]
  all_goals simp

mutual

theorem reads (e : Expr) : Reads e := by
  cases e with
  | literal s =>
    refine .of_operand (fun fuel rest level _ _ hfuel => ?_) rfl
    obtain ⟨fuel, rfl⟩ : ∃ n, fuel = n + 1 := ⟨fuel - 1, by simp [Expr.lexemes] at hfuel; omega⟩
    rfl
  | here =>
    refine .of_operand (fun fuel rest level _ _ hfuel => ?_) rfl
    obtain ⟨fuel, rfl⟩ : ∃ n, fuel = n + 1 := ⟨fuel - 1, by simp [Expr.lexemes] at hfuel; omega⟩
    rfl
  | call f args => exact reads_call f (reads_all args)
  | group e => exact reads_group (reads e)
  | binary op left right => exact reads_binary (reads left) (reads right)
  | first st axis test => exact reads_first st axis test
  | next path far axis test => exact reads_next far axis test (reads path)
  | filtered path predicate => exact reads_filtered (reads path) (reads predicate)

theorem reads_all (args : List Expr) : ∀ e ∈ args, Reads e := by
  cases args with
  | nil => exact nofun
  | cons e rest => exact List.forall_mem_cons.2 ⟨reads e, reads_all rest⟩

end

theorem expression?_lexemes (h : e.fits 0 = true) : expression? e.lexemes = some e := by
  have hread : expr? (3 * e.lexemes.length + 1) 0 (e.lexemes ++ []) = some (e, []) :=
    (reads e).whole _ h rfl nofun (Nat.lt_succ_self _)
  rw [List.append_nil] at hread
  rw [expression?, hread]

theorem read?_of_lexemes {text : String} (h : e.fits 0 = true) (htext : lexemes text = e.lexemes) :
    read? text = some e := by
  rw [read?, htext, expression?_lexemes h]

end Reading

end TemplateLexer.Query
