import TemplateLexer.Pattern
/-!
Searching for a pattern. Where a pattern matches in several ways, they are tried in order: the left
alternative before the right one, and a repetition as often as it can before less often.
-/

set_option autoImplicit false

namespace TemplateLexer

/-- The second place is as far on in the same text, or further. -/
structure TextPlace.LeadsTo (p q : TextPlace) : Prop where
  before : p.before ≤ q.before
  total : q.before + q.rest.length = p.before + p.rest.length

theorem TextPlace.leadsTo_self (p : TextPlace) : p.LeadsTo p := ⟨Nat.le_refl _, rfl⟩

theorem TextPlace.LeadsTo.trans {p q r : TextPlace} (h : p.LeadsTo q) (h' : q.LeadsTo r) :
    p.LeadsTo r :=
  ⟨Nat.le_trans h.before h'.before, h'.total.trans h.total⟩

theorem TextPlace.leadsTo_next {n : Nat} {c : Char} {rest : List Char} :
    (⟨n, c :: rest⟩ : TextPlace).LeadsTo ⟨n + 1, rest⟩ :=
  ⟨Nat.le_succ n, by simp only [List.length_cons]; omega⟩

namespace Pattern

def greedy (step : TextPlace → List TextPlace) : (fuel : Nat) → TextPlace → List TextPlace
  | 0, p => [p]
  | fuel + 1, p =>
    ((step p).filter fun q => p.before < q.before).flatMap (greedy step fuel) ++ [p]

def ends (anyCase : Bool) : Pattern → TextPlace → List TextPlace
  | empty, p => [p]
  | any, p =>
    match p.rest with
    | [] => []
    | _ :: rest => [⟨p.before + 1, rest⟩]
  | oneOf negated members, p =>
    match p.rest with
    | [] => []
    | c :: rest =>
      if members.any (CharRange.holds anyCase c) != negated then [⟨p.before + 1, rest⟩] else []
  | start, p => if p.before == 0 then [p] else []
  | stop, p => if p.rest == [] || p.rest == ['\n'] then [p] else []
  | both first second, p => (first.ends anyCase p).flatMap (second.ends anyCase)
  | either left right, p => left.ends anyCase p ++ right.ends anyCase p
  | star item, p => greedy (item.ends anyCase) p.rest.length p
  | ahead negated item, p => if (item.ends anyCase p).isEmpty == negated then [p] else []

theorem repeated_eq_any_greedy {step : (TextPlace → Bool) → TextPlace → Bool}
    {all : TextPlace → List TextPlace} (h : ∀ next p, step next p = (all p).any next)
    (fuel : Nat) (next : TextPlace → Bool) (p : TextPlace) :
    repeated step fuel next p = (greedy all fuel p).any next := by
  induction fuel generalizing p with
  | zero => simp [repeated, greedy]
  | succ fuel ih =>
    rw [repeated, greedy, h, List.any_append, List.any_flatMap, List.any_filter, Bool.or_comm]
    simp only [ih, List.any_cons, List.any_nil, Bool.or_false]

theorem run_eq_any_ends (anyCase : Bool) (pattern : Pattern) (next : TextPlace → Bool)
    (p : TextPlace) : pattern.run anyCase next p = (pattern.ends anyCase p).any next := by
  induction pattern generalizing next p with
  | empty => simp [run, ends]
  | any =>
    rw [run, ends]
    cases p.rest <;> simp
  | oneOf negated members =>
    rw [run, ends]
    cases p.rest with
    | nil => rfl
    | cons c rest => dsimp only; split <;> simp_all
  | start => rw [run, ends]; split <;> simp_all
  | stop => rw [run, ends]; split <;> simp_all
  | both first second ih₁ ih₂ =>
    rw [run, ends, List.any_flatMap, ih₁]
    exact congrArg _ (funext fun q => ih₂ next q)
  | either left right ih₁ ih₂ => rw [run, ends, ih₁, ih₂, List.any_append]
  | star item ih => exact repeated_eq_any_greedy ih _ _ _
  | ahead negated item ih =>
    rw [run, ends, ih]
    cases item.ends anyCase p <;> cases negated <;> simp

/-- A match in a text: what is passed over before it, what matches, and where it ends. -/
structure Found where
  skipped : List Char
  matched : List Char
  last : TextPlace
  deriving DecidableEq, Repr

/-- The first place, this one or a later one, at which the pattern matches, and how it matches
there. -/
def find? (anyCase : Bool) (pattern : Pattern) (before : Nat) (cs : List Char) : Option Found :=
  match (pattern.ends anyCase ⟨before, cs⟩).head? with
  | some last => some ⟨[], cs.take (last.before - before), last⟩
  | none =>
    match cs with
    | [] => none
    | c :: rest =>
      (pattern.find? anyCase (before + 1) rest).map fun f => { f with skipped := c :: f.skipped }

def moves : Pattern → Bool
  | any | oneOf _ _ => true
  | both first second => first.moves || second.moves
  | either left right => left.moves && right.moves
  | empty | start | stop | star _ | ahead _ _ => false

section Ends

variable {anyCase : Bool} {pattern : Pattern} {p q : TextPlace}

theorem leadsTo_of_mem_greedy {step : TextPlace → List TextPlace}
    (hstep : ∀ p, ∀ q ∈ step p, p.LeadsTo q) {fuel : Nat} (h : q ∈ greedy step fuel p) :
    p.LeadsTo q := by
  induction fuel generalizing p with
  | zero => exact List.mem_singleton.1 h ▸ p.leadsTo_self
  | succ fuel ih =>
    rcases List.mem_append.1 h with h | h
    · obtain ⟨r, hr, hq⟩ := List.mem_flatMap.1 h
      exact (hstep p r (List.mem_filter.1 hr).1).trans (ih hq)
    · exact List.mem_singleton.1 h ▸ p.leadsTo_self

theorem leadsTo_of_mem_if {b : Bool} (h : q ∈ if b then [p] else []) : p.LeadsTo q := by
  cases b with
  | false => cases h
  | true => exact List.mem_singleton.1 h ▸ p.leadsTo_self

theorem leadsTo_of_mem_ends (h : q ∈ pattern.ends anyCase p) : p.LeadsTo q := by
  obtain ⟨n, cs⟩ := p
  induction pattern generalizing n cs q with
  | empty => exact List.mem_singleton.1 h ▸ TextPlace.leadsTo_self _
  | any =>
    cases cs with
    | nil => cases h
    | cons c rest => exact List.mem_singleton.1 h ▸ TextPlace.leadsTo_next
  | oneOf negated members =>
    cases cs with
    | nil => cases h
    | cons c rest =>
      simp only [ends] at h
      split at h
      · exact List.mem_singleton.1 h ▸ TextPlace.leadsTo_next
      · cases h
  | start => exact leadsTo_of_mem_if h
  | stop => exact leadsTo_of_mem_if h
  | both first second ih₁ ih₂ =>
    obtain ⟨r, hr, hq⟩ := List.mem_flatMap.1 h
    exact (ih₁ _ _ hr).trans (ih₂ _ _ hq)
  | either left right ih₁ ih₂ =>
    rcases List.mem_append.1 h with h | h
    · exact ih₁ _ _ h
    · exact ih₂ _ _ h
  | star item ih => exact leadsTo_of_mem_greedy (fun _ _ hq => ih _ _ hq) h
  | ahead negated item ih => exact leadsTo_of_mem_if h

theorem before_lt_of_mem_ends (hmoves : pattern.moves) (h : q ∈ pattern.ends anyCase p) :
    p.before < q.before := by
  obtain ⟨n, cs⟩ := p
  induction pattern generalizing n cs q with
  | any | oneOf =>
    cases cs with
    | nil => cases h
    | cons c rest =>
      rw [ends] at h
      split at h <;> simp_all
  | both first second ih₁ ih₂ =>
    obtain ⟨r, hr, hq⟩ := List.mem_flatMap.1 h
    rw [moves, Bool.or_eq_true] at hmoves
    rcases hmoves with hmoves | hmoves
    · exact Nat.lt_of_lt_of_le (ih₁ hmoves _ _ hr) (leadsTo_of_mem_ends hq).before
    · exact Nat.lt_of_le_of_lt (leadsTo_of_mem_ends hr).before (ih₂ hmoves _ _ hq)
  | either left right ih₁ ih₂ =>
    rw [moves, Bool.and_eq_true] at hmoves
    rcases List.mem_append.1 h with h | h
    · exact ih₁ hmoves.1 _ _ h
    · exact ih₂ hmoves.2 _ _ h
  | empty | start | stop | star | ahead => cases hmoves

theorem length_of_find? (hmoves : pattern.moves) {n : Nat} {cs : List Char} {f : Found}
    (h : pattern.find? anyCase n cs = some f) : f.last.rest.length < cs.length := by
  have hends {n : Nat} {cs : List Char} {last : TextPlace}
      (h : (pattern.ends anyCase ⟨n, cs⟩).head? = some last) : last.rest.length < cs.length := by
    have hmem := List.mem_of_head? h
    have hbefore : n < last.before := before_lt_of_mem_ends hmoves hmem
    have htotal : last.before + last.rest.length = n + cs.length := (leadsTo_of_mem_ends hmem).total
    omega
  induction cs generalizing n f with
  | nil =>
    rw [find?.eq_def] at h
    split at h
    · rename_i hlast
      exact absurd (hends hlast) (Nat.not_lt_zero _)
    · cases h
  | cons c cs ih =>
    rw [find?.eq_def] at h
    split at h
    · rename_i hlast
      cases h
      exact hends hlast
    · obtain ⟨g, hg, rfl⟩ := Option.map_eq_some_iff.1 h
      exact Nat.lt_succ_of_lt (ih (f := g) hg)

end Ends

end Pattern

end TemplateLexer
