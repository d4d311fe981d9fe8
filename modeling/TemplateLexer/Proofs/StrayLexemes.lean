import TemplateLexer.Proofs.QueryReading

set_option autoImplicit false

namespace TemplateLexer.Query

section Stray

variable {l : Lexeme} {ls rest : List Lexeme} {axis : Axis} {test : NodeTest} {f : Function}

theorem stray_mem_of_cons (h : .stray ∈ l :: ls) (hl : l ≠ .stray) : .stray ∈ ls :=
  (List.mem_cons.1 h).resolve_left hl.symm

theorem stray_mem_of_step? (h : step? ls = some (axis, test, rest)) (hls : .stray ∈ ls) :
    .stray ∈ rest := by
  obtain ⟨⟨axis', behind⟩, haxis, h⟩ := Option.bind_eq_some_iff.1 h
  obtain ⟨⟨test', behindTest⟩, htest, h⟩ := Option.bind_eq_some_iff.1 h
  cases h
  have hbehind : .stray ∈ behind := by
    unfold axis? at haxis
    split at haxis
    · cases haxis
      exact stray_mem_of_cons hls (by simp)
    · obtain ⟨_, -, h⟩ := Option.map_eq_some_iff.1 haxis
      cases h
      exact stray_mem_of_cons (stray_mem_of_cons hls (by simp)) (by simp)
    · cases haxis
      exact hls
  unfold nodeTest? at htest
  split at htest
  · cases htest
    exact stray_mem_of_cons hbehind (by simp)
  · cases htest
    have hbrackets := stray_mem_of_cons hbehind (by simp)
    exact stray_mem_of_cons (stray_mem_of_cons hbrackets (by simp)) (by simp)
  · cases htest

theorem stray_mem_of_start (hls : .stray ∈ ls) : .stray ∈ (start ls).2 := by
  unfold start
  split
  · exact stray_mem_of_cons hls (by simp)
  · exact stray_mem_of_cons hls (by simp)
  · exact hls

theorem stray_mem_of_called? (h : called? ls = some (f, rest)) (hls : .stray ∈ ls) :
    .stray ∈ rest := by
  unfold called? at h
  split at h
  · obtain ⟨_, -, h⟩ := Option.map_eq_some_iff.1 h
    cases h
    exact stray_mem_of_cons (stray_mem_of_cons hls (by simp)) (by simp)
  · cases h

/-- Whatever is read with some fuel, nothing that is stray is part of it. -/
structure LeavesStray (fuel : Nat) : Prop where
  expr : ∀ {level : Nat} {ls rest : List Lexeme} {e : Expr},
    expr? fuel level ls = some (e, rest) → .stray ∈ ls → .stray ∈ rest
  operators : ∀ {level : Nat} {ls rest : List Lexeme} {first e : Expr},
    operators? fuel level first ls = some (e, rest) → .stray ∈ ls → .stray ∈ rest
  operand : ∀ {ls rest : List Lexeme} {e : Expr},
    operand? fuel ls = some (e, rest) → .stray ∈ ls → .stray ∈ rest
  args : ∀ {ls rest : List Lexeme} {es : List Expr},
    arguments? fuel ls = some (es, rest) → .stray ∈ ls → .stray ∈ rest
  moreArgs : ∀ {ls rest : List Lexeme} {es : List Expr},
    moreArguments? fuel ls = some (es, rest) → .stray ∈ ls → .stray ∈ rest
  steps : ∀ {ls rest : List Lexeme} {path e : Expr},
    steps? fuel path ls = some (e, rest) → .stray ∈ ls → .stray ∈ rest

section Readers

variable {fuel level : Nat} {e first path : Expr} {es : List Expr}

section

variable (ih : ∀ {n}, n < fuel → LeavesStray n)

include ih

theorem stray_mem_of_expr? (h : expr? fuel level ls = some (e, rest)) (hls : .stray ∈ ls) :
    .stray ∈ rest := by
  rw [expr?.eq_def] at h
  split at h
  · cases h
  · have ih := ih (Nat.lt_succ_self _)
    obtain ⟨⟨first, behind⟩, hfirst, h⟩ := Option.bind_eq_some_iff.1 h
    exact ih.operators h (ih.operand hfirst hls)

theorem stray_mem_of_operators? (h : operators? fuel level first ls = some (e, rest))
    (hls : .stray ∈ ls) : .stray ∈ rest := by
  rw [operators?.eq_def] at h
  split at h
  · cases h
  · cases hls
  · rename_i l ls
    have ih := ih (Nat.lt_succ_self _)
    split at h
    · cases h
      exact hls
    · rename_i op hop
      have hl : l ≠ .stray := by
        rintro rfl
        cases hop
      split at h
      · obtain ⟨⟨right, behind⟩, hright, h⟩ := Option.bind_eq_some_iff.1 h
        have hbehind := ih.expr hright (stray_mem_of_cons hls hl)
        dsimp only at h
        split at h
        · exact ih.operators h hbehind
        · cases h
      · cases h
        exact hls

theorem stray_mem_of_operand? (h : operand? fuel ls = some (e, rest)) (hls : .stray ∈ ls) :
    .stray ∈ rest := by
  rw [operand?.eq_def] at h
  split at h
  · cases h
  · cases h
    exact stray_mem_of_cons hls (by simp)
  · cases h
    exact stray_mem_of_cons hls (by simp)
  · obtain ⟨⟨inner, behind⟩, hinner, h⟩ := Option.bind_eq_some_iff.1 h
    have hbehind := (ih (Nat.lt_succ_self _)).expr hinner (stray_mem_of_cons hls (by simp))
    split at h
    · rename_i heq
      cases heq
      cases h
      exact stray_mem_of_cons hbehind (by simp)
    · cases h
  · have ih := ih (Nat.lt_succ_self _)
    split at h
    · rename_i f behind hcalled
      obtain ⟨⟨args, behindArgs⟩, hargs, h⟩ := Option.bind_eq_some_iff.1 h
      have hbehind := ih.args hargs (stray_mem_of_called? hcalled hls)
      dsimp only at h
      split at h
      · cases h
        exact hbehind
      · cases h
    · obtain ⟨⟨axis, test, behind⟩, hstep, h⟩ := Option.bind_eq_some_iff.1 h
      exact ih.steps h (stray_mem_of_step? hstep (stray_mem_of_start hls))

theorem stray_mem_of_arguments? (h : arguments? fuel ls = some (es, rest)) (hls : .stray ∈ ls) :
    .stray ∈ rest := by
  rw [arguments?.eq_def] at h
  split at h
  · cases h
  · cases h
    exact stray_mem_of_cons hls (by simp)
  · have ih := ih (Nat.lt_succ_self _)
    obtain ⟨⟨e, behind⟩, he, h⟩ := Option.bind_eq_some_iff.1 h
    obtain ⟨⟨more, behindMore⟩, hmore, h⟩ := Option.bind_eq_some_iff.1 h
    cases h
    exact ih.moreArgs hmore (ih.expr he hls)

theorem stray_mem_of_moreArguments? (h : moreArguments? fuel ls = some (es, rest))
    (hls : .stray ∈ ls) : .stray ∈ rest := by
  rw [moreArguments?.eq_def] at h
  split at h
  · cases h
  · cases h
    exact stray_mem_of_cons hls (by simp)
  · have ih := ih (Nat.lt_succ_self _)
    obtain ⟨⟨e, behind⟩, he, h⟩ := Option.bind_eq_some_iff.1 h
    obtain ⟨⟨more, behindMore⟩, hmore, h⟩ := Option.bind_eq_some_iff.1 h
    cases h
    exact ih.moreArgs hmore (ih.expr he (stray_mem_of_cons hls (by simp)))
  · cases h

theorem stray_mem_of_steps? (h : steps? fuel path ls = some (e, rest)) (hls : .stray ∈ ls) :
    .stray ∈ rest := by
  rw [steps?.eq_def] at h
  split at h
  · cases h
  · have ih := ih (Nat.lt_succ_self _)
    obtain ⟨⟨predicate, behind⟩, hpredicate, h⟩ := Option.bind_eq_some_iff.1 h
    have hbehind := ih.expr hpredicate (stray_mem_of_cons hls (by simp))
    split at h
    · rename_i heq
      cases heq
      exact ih.steps h (stray_mem_of_cons hbehind (by simp))
    · cases h
  · obtain ⟨⟨axis, test, behind⟩, hstep, h⟩ := Option.bind_eq_some_iff.1 h
    exact (ih (Nat.lt_succ_self _)).steps h
      (stray_mem_of_step? hstep (stray_mem_of_cons hls (by simp)))
  · obtain ⟨⟨axis, test, behind⟩, hstep, h⟩ := Option.bind_eq_some_iff.1 h
    exact (ih (Nat.lt_succ_self _)).steps h
      (stray_mem_of_step? hstep (stray_mem_of_cons hls (by simp)))
  · cases h
    exact hls

end

theorem leavesStray (fuel : Nat) : LeavesStray fuel := by
  induction fuel using Nat.strongRecOn with
  | ind fuel ih =>
    exact ⟨stray_mem_of_expr? (ih _), stray_mem_of_operators? (ih _), stray_mem_of_operand? (ih _),
      stray_mem_of_arguments? (ih _), stray_mem_of_moreArguments? (ih _),
      stray_mem_of_steps? (ih _)⟩

end Readers

theorem expression?_of_stray (h : .stray ∈ ls) : expression? ls = none := by
  rw [expression?]
  split
  · rename_i e hread
    exact absurd ((leavesStray _).expr hread h) List.not_mem_nil
  · rfl

end Stray

section Foreign

variable {c : Char} {cs : List Char} {s : Scan}

theorem isChar_of_inPart (h : Markup.inPart c = true) : Markup.isChar c.toNat = true := by
  have hranges : ∀ range ∈ Markup.nameStartRanges ++ Markup.nameMoreRanges,
      0x20 ≤ range.1 ∧ range.2 ≤ 0xd7ff ∨ 0xe000 ≤ range.1 ∧ range.2 ≤ 0xfffd
        ∨ 0x10000 ≤ range.1 ∧ range.2 ≤ 0x10ffff := by decide
  have hany : ∃ range ∈ Markup.nameStartRanges ++ Markup.nameMoreRanges,
      range.1 ≤ c.toNat ∧ c.toNat ≤ range.2 := by
    simpa [Markup.inPart, Markup.startsPart, Markup.inAny, or_and_right, exists_or] using h
  obtain ⟨range, hrange, hfirst, hlast⟩ := hany
  have hbounds := hranges range hrange
  simp only [Markup.isChar, Bool.or_eq_true, Bool.and_eq_true, decide_eq_true_eq]
  omega

def Scan.IsQuoted : Scan → Prop
  | inLiteral quote _ => quote ∈ ['\'', '"']
  | _ => True

theorem isQuoted_start (c : Char) : (Scan.start c).2.IsQuoted := by
  unfold Scan.start
  split
  · rename_i hquote
    simpa [Scan.IsQuoted] using hquote
  all_goals
    repeat' split
    all_goals trivial

theorem isQuoted_step (c : Char) (h : s.IsQuoted) : (s.step c).2.IsQuoted := by
  cases s with
  | between => exact isQuoted_start c
  | inName read | afterSlash | afterColon =>
    rw [Scan.step]
    split
    · trivial
    · exact isQuoted_start c
  | inLiteral quote read =>
    rw [Scan.step]
    split
    · trivial
    · exact h

theorem notMem_of_foreign (hc : Markup.isChar c.toNat = false)
    (hcs : (cs.all fun d => Markup.isChar d.toNat) = true) : c ∉ cs :=
  fun hmem => Bool.false_ne_true (hc.symm.trans (List.all_eq_true.1 hcs c hmem))

theorem stray_mem_step (h : s.IsQuoted) (hc : Markup.isChar c.toNat = false) :
    .stray ∈ (s.step c).1 := by
  have hnone : c ∉ ['\'', '"', '/', ':', ' ', '\t', '\n', '\r'] :=
    notMem_of_foreign hc (by decide)
  have hne : ∀ d ∈ ['\'', '"', '/', ':', ' ', '\t', '\n', '\r'], (c == d) = false :=
    fun d hd => beq_false_of_ne fun h => hnone (h ▸ hd)
  have hmore : Markup.inPart c = false := by
    rw [Bool.eq_false_iff]
    intro hpart
    exact Bool.false_ne_true (hc.symm.trans (isChar_of_inPart hpart))
  have hstart : .stray ∈ (Scan.start c).1 := by
    have hmark : Mark.of? c = none := by
      unfold Mark.of?
      split <;> first | rfl | exact absurd hc (by decide)
    have hfirst : Markup.startsPart c = false := (Bool.or_eq_false_iff.1 hmore).1
    simp only [List.forall_mem_cons] at hne
    simp [Scan.start, hne, hfirst, hmark, Markup.isBlank]
  have hturn : ∀ s : Scan, .stray ∈ (s.turn c).1 := fun s => List.mem_append_right _ hstart
  cases s with
  | between => exact hstart
  | inName read =>
    rw [Scan.step, hmore]
    exact hturn _
  | inLiteral quote read =>
    have hquote : (c == quote) = false :=
      hne quote (List.mem_of_mem_take (i := 2) h)
    rw [Scan.step, hquote, hc]
    exact List.mem_singleton_self _
  | afterSlash =>
    rw [Scan.step, hne '/' (by decide)]
    exact hturn _
  | afterColon =>
    rw [Scan.step, hne ':' (by decide)]
    exact hturn _

theorem stray_mem_run (h : s.IsQuoted) (hmem : c ∈ cs) (hc : Markup.isChar c.toNat = false) :
    .stray ∈ (s.run cs).1 := by
  induction cs generalizing s with
  | nil => cases hmem
  | cons d cs ih =>
    rw [Scan.run]
    rcases List.mem_cons.1 hmem with rfl | hmem
    · exact List.mem_append_left _ (stray_mem_step h hc)
    · exact List.mem_append_right _ (ih (isQuoted_step d h) hmem)

/-- No query with a character that no document has can be read. -/
theorem read?_of_foreign {text : String} (hmem : c ∈ text.toList)
    (hc : Markup.isChar c.toNat = false) : read? text = none := by
  have hstray : .stray ∈ (Scan.between.run text.toList).1 := stray_mem_run trivial hmem hc
  exact expression?_of_stray (List.mem_append_left _ hstray)

end Foreign

end TemplateLexer.Query
