import TemplateLexer.TokenStream.Tape

set_option autoImplicit false

namespace TemplateLexer

namespace Tape

variable {σ α : Type} {t u : Tape σ α} {a : α} {source : σ} {lifo : Bool}

/-- What is kept beside the tokens fits them. -/
structure Sound (t : Tape σ α) : Prop where
  length : t.length = t.tokens.length
  low : -1 ≤ t.position
  high : t.position ≤ t.length
  current : t.current = t.peek 0
  building : t.isFrozen = false → t.tokens = []

theorem push_eq_ok (h : t.push a = .ok u) :
    ∃ pushed, t.pushed = some pushed ∧ u = { t with pushed := some (pushed ++ [a]) } := by
  rw [push] at h
  split at h
  · cases h
  · rename_i pushed hpushed
    exact ⟨pushed, hpushed, (Except.ok.inj h).symm⟩

theorem replay_eq_ok (h : t.replay = .ok u) :
    t.pushed = none ∧ u = ⟨t.source, false, none, t.tokens, t.length, -1, none⟩ := by
  rw [replay] at h
  split at h
  · cases h
  · rename_i hpushed
    exact ⟨hpushed, (Except.ok.inj h).symm⟩

theorem isFrozen_iff : t.isFrozen ↔ t.pushed = none := by
  rw [isFrozen, Option.isNone_iff_eq_none]

theorem isFrozen_eq_false_iff : t.isFrozen = false ↔ ∃ xs, t.pushed = some xs := by
  rw [isFrozen, Option.isNone_eq_false_iff, Option.isSome_iff_exists]

theorem fix_of_isFrozen (h : t.isFrozen) : t.fix = t := by
  rw [fix, isFrozen_iff.1 h]

theorem isFrozen_fix (t : Tape σ α) : t.fix.isFrozen := by
  rw [fix]
  split
  · rename_i hpushed
    exact isFrozen_iff.2 hpushed
  · rfl

theorem tokens_fix {xs : List α} (h : t.pushed = some xs) :
    t.fix.tokens = if t.lifo then xs.reverse else xs := by
  rw [fix, h]

theorem length_fix (h : t.Sound) : t.fix.length = t.fix.tokens.length := by
  rw [fix]
  split
  · exact h.length
  · rfl

theorem Sound.push (h : t.Sound) (hu : t.push a = .ok u) : u.Sound := by
  obtain ⟨pushed, hpushed, rfl⟩ := push_eq_ok hu
  exact
    { length := h.length
      low := h.low
      high := h.high
      current := h.current
      building := fun _ => h.building (by rw [isFrozen, hpushed]; rfl) }

theorem sound_start (hlength : t.length = t.tokens.length) (hposition : t.position = -1)
    (hcurrent : t.current = none) (hbuilding : t.isFrozen = false → t.tokens = []) : t.Sound where
  length := hlength
  low := by omega
  high := by omega
  current := by rw [hcurrent, peek, hposition]; rfl
  building := hbuilding

theorem sound_blank (source : σ) (lifo : Bool) : (blank source lifo : Tape σ α).Sound :=
  sound_start rfl rfl rfl fun _ => rfl

theorem Sound.rewind (h : t.Sound) : t.rewind.Sound :=
  sound_start h.length rfl rfl h.building

theorem Sound.freeze (h : t.Sound) : t.freeze.Sound :=
  sound_start (length_fix h) rfl rfl fun hbuilding => by
    have hfrozen : t.freeze.isFrozen := isFrozen_fix t
    rw [hfrozen] at hbuilding
    cases hbuilding

theorem Sound.replay (h : t.Sound) (hu : t.replay = .ok u) : u.Sound := by
  obtain ⟨-, rfl⟩ := replay_eq_ok hu
  exact sound_start h.length rfl rfl nofun

theorem position_next (t : Tape σ α) :
    t.next.2.position = if t.position < t.length then t.position + 1 else t.position := rfl

theorem current_next (h : t.Sound) : t.next.2.current = t.next.2.peek 0 := by
  have hlow := h.low
  have hposition := position_next t
  have hnext : 0 ≤ t.next.2.position := by
    rw [hposition]
    split <;> omega
  -- Both look at the new position, which is not below zero.
  show (if t.next.2.position < t.length then _ else none) = _
  rw [peek, Int.add_zero]
  simp only [hnext, true_and]
  rfl

theorem Sound.next (h : t.Sound) : t.next.2.Sound where
  length := h.length
  low := by
    have := h.low
    rw [position_next]
    split <;> omega
  high := by
    have := h.high
    show t.next.2.position ≤ t.length
    rw [position_next]
    split <;> omega
  current := current_next h
  building := h.building

theorem Sound.obey (h : t.Sound) (o : Order α) : (t.obey o).2.Sound := by
  cases o with
  | push a =>
    rw [Tape.obey]
    split
    · rename_i u hu
      exact h.push hu
    · exact h
  | freeze => exact h.freeze
  | rewind => exact h.rewind
  | next => exact h.next
  | peek offset => exact h
  | replay => exact h

theorem Sound.made (h : t.Sound) (o : Order α) : ∀ u ∈ (t.obey o).1.made, u.Sound := by
  cases o with
  | push a =>
    rw [Tape.obey]
    split <;> nofun
  | replay =>
    rw [Tape.obey]
    cases hu : t.replay with
    | error f => nofun
    | ok u =>
      intro v hv
      rw [List.mem_singleton.1 hv]
      exact h.replay hu
  | freeze | rewind | next | peek => nofun

def upcoming (t : Tape σ α) (k : Nat) : Option α := t.tokens[(t.position + 1).toNat + k]?

theorem upcoming_of_start (h : t.position = -1) (k : Nat) : t.upcoming k = t.tokens[k]? := by
  rw [upcoming, h, show (-1 + 1 : Int).toNat = 0 from rfl, Nat.zero_add]

theorem upcoming_eq_none (h : t.Sound) {k : Nat} (hk : t.length ≤ t.position + 1 + k) :
    t.upcoming k = none := by
  have hlow := h.low
  have hlength := h.length
  rw [upcoming, List.getElem?_eq_none_iff]
  omega

theorem peek_succ (h : t.Sound) (k : Nat) : t.peek (k + 1) = t.upcoming k := by
  have hlow := h.low
  have hplace : (t.position + (k + 1)).toNat = (t.position + 1).toNat + k := by omega
  rw [peek, hplace]
  split
  · rfl
  · exact (upcoming_eq_none h (by omega)).symm

theorem fst_next (h : t.Sound) : t.next.1 = t.upcoming 0 := by
  have hlow := h.low
  show (if t.next.2.position < t.length then t.tokens[t.next.2.position.toNat]? else none) = _
  rw [position_next]
  by_cases hmore : t.position < t.length
  · rw [if_pos hmore]
    split
    · rfl
    · exact (upcoming_eq_none h (by omega)).symm
  · rw [if_neg hmore, if_neg hmore]
    exact (upcoming_eq_none h (by omega)).symm

theorem upcoming_next (h : t.Sound) (k : Nat) : t.next.2.upcoming k = t.upcoming (k + 1) := by
  have hlow := h.low
  have hposition := position_next t
  by_cases hmore : t.position < t.length
  · rw [if_pos hmore] at hposition
    have hplace : (t.next.2.position + 1).toNat + k = (t.position + 1).toNat + (k + 1) := by omega
    rw [upcoming, hplace]
    rfl
  · rw [if_neg hmore] at hposition
    have hlength : t.next.2.length = t.length := rfl
    rw [upcoming_eq_none h.next (by omega), upcoming_eq_none h (by omega)]

theorem atEnd_iff (h : t.Sound) : t.atEnd ↔ t.peek 1 = none := by
  have hlow := h.low
  have hlength := h.length
  have hpeek : t.peek 1 = t.upcoming 0 := peek_succ h 0
  rw [hpeek, upcoming, List.getElem?_eq_none_iff, atEnd, decide_eq_true_iff]
  omega

theorem peek_of_building (h : t.Sound) (hbuilding : t.isFrozen = false) (offset : Int) :
    t.peek offset = none := by
  rw [peek, h.building hbuilding]
  split <;> rfl

theorem frozen_obey (h : t.isFrozen) (o : Order α) :
    (t.obey o).2.isFrozen ∧ (t.obey o).2.tokens = t.tokens := by
  cases o with
  | push a =>
    have hpush : t.push a = .error .pushOnFrozen := by rw [push, isFrozen_iff.1 h]
    rw [obey, hpush]
    exact ⟨h, rfl⟩
  | freeze =>
    show t.fix.isFrozen ∧ t.fix.tokens = t.tokens
    rw [fix_of_isFrozen h]
    exact ⟨h, rfl⟩
  | rewind | next | peek | replay => exact ⟨h, rfl⟩

/-- What a tape refuses: more tokens once it is frozen, and to be replayed before. -/
def Refuses (t : Tape σ α) : Order α → Prop
  | .push _ => t.isFrozen
  | .replay => t.isFrozen = false
  | _ => False

theorem obey_of_refuses {o : Order α} (h : t.Refuses o) :
    ∃ f r, f.report? = some r ∧ r.kind = .streamFrozen ∧ t.obey o = (.error f, t) := by
  cases o with
  | push a =>
    refine ⟨.pushOnFrozen, _, rfl, rfl, ?_⟩
    rw [obey, push, isFrozen_iff.1 h]
  | replay =>
    refine ⟨.replayBeforeFreeze, _, rfl, rfl, ?_⟩
    obtain ⟨xs, hxs⟩ := isFrozen_eq_false_iff.1 h
    rw [obey, replay, hxs]
    rfl
  | freeze | rewind | next | peek => cases h

theorem obey_of_not_refuses {o : Order α} (h : ¬t.Refuses o) :
    ∃ given, (t.obey o).1 = .ok given := by
  cases o with
  | push a =>
    obtain ⟨xs, hxs⟩ := isFrozen_eq_false_iff.1 (Bool.eq_false_iff.2 h)
    exact ⟨.nothing, by rw [obey, push, hxs]⟩
  | replay =>
    have hfrozen : t.isFrozen := (Bool.not_eq_false _).mp h
    refine ⟨.tape ⟨t.source, false, none, t.tokens, t.length, -1, none⟩, ?_⟩
    rw [obey, replay, isFrozen_iff.1 hfrozen]
    rfl
  | freeze | rewind | next | peek => exact ⟨_, rfl⟩

theorem isEqv_self {eq : α → α → Bool} (h : ∀ a, eq a a) (xs : List α) : xs.isEqv xs eq := by
  induction xs with
  | nil => rfl
  | cons x xs ih => rw [List.isEqv, h, ih]; rfl

theorem same_of_frozen {eq : α → α → Bool} (h : ∀ a, eq a a) (ht : t.isFrozen) (hu : u.isFrozen)
    (htokens : t.tokens = u.tokens) : t.same eq u := by
  rw [same, htokens, isEqv_self h, isFrozen_iff.1 ht, isFrozen_iff.1 hu]
  rfl

theorem upcoming_obey {o : Order α} (hfreeze : o ≠ .freeze) (hrewind : o ≠ .rewind)
    (hnext : o ≠ .next) (k : Nat) : (t.obey o).2.upcoming k = t.upcoming k := by
  cases o with
  | push a =>
    rw [obey]
    split
    · rename_i u hu
      obtain ⟨pushed, -, rfl⟩ := push_eq_ok hu
      rfl
    · rfl
  | freeze => exact absurd rfl hfreeze
  | rewind => exact absurd rfl hrewind
  | next => exact absurd rfl hnext
  | peek | replay => rfl

/-- The answers to some orders, and what the tape becomes. -/
def told (t : Tape σ α) : List (Order α) → List (Answer σ α) × Tape σ α
  | [] => ([], t)
  | o :: os => ((t.obey o).1 :: ((t.obey o).2.told os).1, ((t.obey o).2.told os).2)

theorem told_append (t : Tape σ α) (os os' : List (Order α)) :
    t.told (os ++ os')
      = ((t.told os).1 ++ ((t.told os).2.told os').1, ((t.told os).2.told os').2) := by
  induction os generalizing t with
  | nil => rfl
  | cons o os ih => rw [List.cons_append, told, ih]; rfl

theorem frozen_told (h : t.isFrozen) (os : List (Order α)) :
    (t.told os).2.isFrozen ∧ (t.told os).2.tokens = t.tokens := by
  induction os generalizing t with
  | nil => exact ⟨h, rfl⟩
  | cons o os ih =>
    obtain ⟨hfrozen, htokens⟩ := frozen_obey h o
    obtain ⟨hfrozen', htokens'⟩ := ih hfrozen
    exact ⟨hfrozen', htokens'.trans htokens⟩

def Order.pushed? : Order α → Option α
  | .push a => some a
  | _ => none

theorem pushed_told {os : List (Order α)} {xs : List α} (h : t.pushed = some xs)
    (hfreeze : .freeze ∉ os) :
    (t.told os).2.pushed = some (xs ++ os.filterMap Order.pushed?)
      ∧ (t.told os).2.lifo = t.lifo := by
  induction os generalizing t xs with
  | nil => exact ⟨by simpa [told] using h, rfl⟩
  | cons o os ih =>
    rw [List.mem_cons, not_or] at hfreeze
    have hnext : (t.obey o).2.pushed = some (xs ++ o.pushed?.toList)
        ∧ (t.obey o).2.lifo = t.lifo := by
      cases o with
      | push a => rw [obey, push, h]; exact ⟨rfl, rfl⟩
      | freeze => exact absurd rfl hfreeze.1
      | rewind | next | peek | replay => exact ⟨(List.append_nil xs).symm ▸ h, rfl⟩
    obtain ⟨hpushed, hlifo⟩ := ih hnext.1 hfreeze.2
    refine ⟨?_, hlifo.trans hnext.2⟩
    rw [told, hpushed, List.append_assoc]
    cases o <;> rfl

/-- A tape does what the stream does that it keeps. -/
structure Shown (t : Tape σ α) : Prop where
  tokens : t.view.toList = t.tokens
  frozen : t.view.isFrozen = t.isFrozen
  current : t.view.current = t.current
  atEnd : t.view.atEnd = t.atEnd
  peek : ∀ offset, t.view.peek offset = t.peek offset
  push : ∀ a, t.view.push a = (t.push a).map view
  freeze : t.view.freeze = t.freeze.view
  rewind : t.view.rewind = t.rewind.view
  next : t.view.next = (t.next.1, t.next.2.view)
  replay : t.view.replay = t.replay.map view

theorem toList_view (h : t.Sound) : t.view.toList = t.tokens := by
  cases hfrozen : t.isFrozen with
  | true => rw [TokenStream.toList, view, isFrozen_iff.1 hfrozen]
  | false =>
    obtain ⟨xs, hxs⟩ := isFrozen_eq_false_iff.1 hfrozen
    rw [TokenStream.toList, view, hxs]
    exact (h.building hfrozen).symm

theorem taken_view (h : t.Sound) : (t.view.taken : Int) = t.position + 1 :=
  Int.toNat_of_nonneg (by have := h.low; omega)

theorem peek_view (h : t.Sound) (offset : Int) : t.view.peek offset = t.peek offset := by
  have hlength := h.length
  have hplace : (t.view.taken : Int) - 1 + offset = t.position + offset := by
    rw [taken_view h]
    omega
  rw [TokenStream.peek, hplace, toList_view h, peek]
  by_cases hlow : 0 ≤ t.position + offset
  · rw [if_pos hlow]
    by_cases hhigh : t.position + offset < t.length
    · rw [if_pos ⟨hlow, hhigh⟩]
    · rw [if_neg fun h => hhigh h.2, List.getElem?_eq_none]
      omega
  · rw [if_neg hlow, if_neg fun h => hlow h.1]

theorem current_view (h : t.Sound) : t.view.current = t.current := by
  have htaken := taken_view h
  rw [h.current, ← peek_view h, TokenStream.current, TokenStream.peek, Int.add_zero]
  by_cases hzero : t.view.taken = 0
  · rw [if_pos hzero, if_neg (by omega)]
  · rw [if_neg hzero, if_pos (by omega)]
    congr 1
    omega

theorem freeze_view (t : Tape σ α) : t.view.freeze = t.freeze.view := by
  obtain ⟨source, lifo, pushed, tokens, length, position, current⟩ := t
  cases pushed with
  | none => rfl
  | some pushed => cases lifo <;> simp [TokenStream.freeze, view, freeze, fix, rewind]

theorem next_view (h : t.Sound) : t.view.next = (t.next.1, t.next.2.view) := by
  have htaken := taken_view h
  have hlength := h.length
  have hafter : (t.next.2.view.taken : Int) = t.next.2.position + 1 := taken_view h.next
  have hview (n : Nat) (hn : t.next.2.view.taken = n) :
      t.next.2.view = { t.view with taken := n } := by
    rw [← hn]
    rfl
  -- The stream counts the tokens taken, one more than the position.
  rw [position_next] at hafter
  rw [TokenStream.next, toList_view h]
  by_cases hmore : t.position < t.length
  · rw [if_pos hmore] at hafter
    rw [if_pos (by omega), ← hview (t.view.taken + 1) (by omega)]
    exact congrArg (fun a => (a, t.next.2.view)) (current_view h.next)
  · rw [if_neg hmore] at hafter
    have hnone : t.next.1 = none := (fst_next h).trans (upcoming_eq_none h (by omega))
    rw [if_neg (by omega), hnone, hview t.view.taken (by omega)]

theorem replay_view (t : Tape σ α) : t.view.replay = t.replay.map view := by
  obtain ⟨source, lifo, pushed, tokens, length, position, current⟩ := t
  cases pushed <;> rfl

theorem push_view (t : Tape σ α) (a : α) : t.view.push a = (t.push a).map view := by
  obtain ⟨source, lifo, pushed, tokens, length, position, current⟩ := t
  cases pushed with
  | none => rfl
  | some pushed => simp [TokenStream.push, push, view, Except.map]

/-- A sound tape is the stream that it keeps. -/
theorem Sound.shown (h : t.Sound) : t.Shown where
  tokens := toList_view h
  frozen := by
    rw [TokenStream.isFrozen, view, isFrozen]
    cases t.pushed <;> rfl
  current := current_view h
  atEnd := by
    have htaken := taken_view h
    rw [TokenStream.atEnd, toList_view h, atEnd, ← htaken, h.length]
    exact decide_eq_decide.2 Int.ofNat_le.symm
  peek := peek_view h
  push := push_view t
  freeze := freeze_view t
  rewind := rfl
  next := next_view h
  replay := replay_view t

end Tape

end TemplateLexer
