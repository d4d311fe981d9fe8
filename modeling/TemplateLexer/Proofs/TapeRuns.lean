import TemplateLexer.Proofs.TapeOrders
/-!
Any number of tapes under any sequence of commands. What a tape becomes and what it answers depends
on the orders that it gets itself.
-/

set_option autoImplicit false

namespace TemplateLexer

namespace Tape

variable {σ α : Type}

def Command.isNext (i : Nat) : Command σ α → Bool
  | .tell j .next => j == i
  | _ => false

theorem Command.isNext_tell {i j : Nat} {o : Order α} :
    Command.isNext i (.tell j o : Command σ α) ↔ j = i ∧ o = .next := by
  cases o <;> simp [isNext]

/-- The order to a tape in a command, if there is one. -/
def Command.to? (i : Nat) : Command σ α → Option (Order α)
  | .create _ _ => none
  | .tell j o => if j = i then some o else none

end Tape

namespace Tapes

open Tape

variable {σ α : Type} {ts : Tapes σ α} {t : Tape σ α} {i : Nat} {cs later : List (Command σ α)}

theorem run_cons (ts : Tapes σ α) (c : Command σ α) (cs : List (Command σ α)) :
    ts.run (c :: cs)
      = ((ts.step c).1 :: ((ts.step c).2.run cs).1, ((ts.step c).2.run cs).2) := rfl

theorem run_append (ts : Tapes σ α) (cs later : List (Command σ α)) :
    ts.run (cs ++ later)
      = ((ts.run cs).1 ++ ((ts.run cs).2.run later).1, ((ts.run cs).2.run later).2) := by
  induction cs generalizing ts with
  | nil => rfl
  | cons c cs ih => rw [List.cons_append, run_cons, ih]; rfl

theorem after_append (cs later : List (Command σ α)) :
    after (cs ++ later) = ((after cs).run later).2 := by
  rw [after, run_append]
  rfl

theorem after_concat (cs : List (Command σ α)) (c : Command σ α) :
    after (cs ++ [c]) = ((after cs).step c).2 := after_append cs [c]

def own (i : Nat) (cs : List (Command σ α)) : List (Order α) := cs.filterMap (Command.to? i)

theorem own_cons (i : Nat) (c : Command σ α) (cs : List (Command σ α)) :
    own i (c :: cs) = (c.to? i).toList ++ own i cs := by
  rw [own, own, List.filterMap_cons]
  cases c.to? i <;> rfl

theorem step_tell (h : ts[i]? = some t) (o : Order α) :
    ts.step (.tell i o) = ((t.obey o).1, ts.set i (t.obey o).2 ++ (t.obey o).1.made) := by
  rw [step, h]

theorem getElem?_step (h : ts[i]? = some t) (c : Command σ α) :
    (ts.step c).2[i]? = some (t.told (c.to? i).toList).2 := by
  have hi : i < ts.length := (List.getElem?_eq_some_iff.1 h).1
  cases c with
  | create source lifo => exact (List.getElem?_append_left hi).trans h
  | tell j o =>
    cases hj : ts[j]? with
    | none =>
      have hne : j ≠ i := fun he => by
        rw [he, h] at hj
        cases hj
      rw [step, hj, Command.to?, if_neg hne]
      exact h
    | some u =>
      rw [step_tell hj]
      refine (List.getElem?_append_left ?_).trans ?_
      · rwa [List.length_set]
      · rw [Command.to?]
        split
        · rename_i he
          subst he
          cases hj.symm.trans h
          rw [List.getElem?_set_self hi]
          rfl
        · rename_i hne
          rw [List.getElem?_set_ne hne, h]
          rfl

theorem getElem?_run (h : ts[i]? = some t) (cs : List (Command σ α)) :
    (ts.run cs).2[i]? = some (t.told (own i cs)).2 := by
  induction cs generalizing ts t with
  | nil => exact h
  | cons c cs ih =>
    rw [own_cons, told_append]
    exact ih (getElem?_step h c)

theorem getElem?_after (h : (after cs)[i]? = some t) (later : List (Command σ α)) :
    (after (cs ++ later))[i]? = some (t.told (own i later)).2 := by
  rw [after_append]
  exact getElem?_run h later

/-- The answers to some of the commands. -/
def heard (asked : Command σ α → Bool) :
    List (Command σ α) → List (Answer σ α) → List (Answer σ α)
  | c :: cs, a :: as => if asked c then a :: heard asked cs as else heard asked cs as
  | _, _ => []

/-- What a tape answers depends on the orders that it gets. -/
theorem heard_run (h : ts[i]? = some t) (cs : List (Command σ α)) :
    heard (fun c => (c.to? i).isSome) cs (ts.run cs).1 = (t.told (own i cs)).1 := by
  induction cs generalizing ts t with
  | nil => rfl
  | cons c cs ih =>
    have hrest := ih (getElem?_step h c)
    rw [run_cons, heard, hrest, own_cons, told_append]
    cases c with
    | create source lifo => rfl
    | tell j o =>
      by_cases hj : j = i
      · subst hj
        rw [Command.to?, if_pos rfl, step_tell h]
        rfl
      · rw [Command.to?, if_neg hj]
        rfl

theorem sound_step (h : ∀ t ∈ ts, t.Sound) (c : Command σ α) : ∀ t ∈ (ts.step c).2, t.Sound := by
  cases c with
  | create source lifo =>
    intro t ht
    rcases List.mem_append.1 ht with ht | ht
    · exact h t ht
    · rw [List.mem_singleton.1 ht]
      exact sound_blank source lifo
  | tell i o =>
    cases hi : ts[i]? with
    | none =>
      rw [step, hi]
      exact h
    | some t =>
      have ht := h t (List.mem_of_getElem? hi)
      rw [step_tell hi]
      intro u hu
      rcases List.mem_append.1 hu with hu | hu
      · rcases List.mem_or_eq_of_mem_set hu with hu | rfl
        · exact h u hu
        · exact ht.obey o
      · exact ht.made o u hu

theorem sound_run (h : ∀ t ∈ ts, t.Sound) (cs : List (Command σ α)) :
    ∀ t ∈ (ts.run cs).2, t.Sound := by
  induction cs generalizing ts with
  | nil => exact h
  | cons c cs ih => exact ih (sound_step h c)

theorem sound_after (h : (after cs)[i]? = some t) : t.Sound := by
  have hnone : ∀ t ∈ ([] : Tapes σ α), t.Sound := nofun
  exact sound_run hnone cs t (List.mem_of_getElem? h)

theorem set_of_getElem? (h : ts[i]? = some t) : ts.set i t = ts := by
  obtain ⟨hi, rfl⟩ := List.getElem?_eq_some_iff.1 h
  exact List.set_getElem_self hi

def pushes (i : Nat) (cs : List (Command σ α)) : List α := (own i cs).filterMap Order.pushed?

theorem freeze_not_mem_own (h : .tell i .freeze ∉ cs) : .freeze ∉ own i cs := by
  intro hmem
  obtain ⟨c, hc, hto⟩ := List.mem_filterMap.1 hmem
  cases c with
  | create source lifo => cases hto
  | tell j o =>
    rw [Command.to?] at hto
    split at hto
    · rename_i hj
      cases hto
      exact h (hj ▸ hc)
    · cases hto

/-- A tape that is made and then frozen keeps what it was given in between. -/
theorem exists_fixed (before mid later : List (Command σ α)) (source : σ) (lifo : Bool)
    (hi : i = (after before).length) (hmid : .tell i .freeze ∉ mid) :
    ∃ t : Tape σ α,
      (after (before ++ .create source lifo :: mid ++ .tell i .freeze :: later))[i]? = some t
        ∧ t.isFrozen ∧ t.tokens = if lifo then (pushes i mid).reverse else pushes i mid := by
  have hnew : (after (before ++ [.create source lifo]))[i]? = some (blank source lifo) := by
    rw [after_concat, hi]
    exact List.getElem?_concat_length
  -- Of the rest only what the tape is told matters: pushes, the first freezing, and what follows.
  have hrest := getElem?_after hnew (mid ++ .tell i .freeze :: later)
  rw [List.append_assoc, List.singleton_append, ← List.cons_append, ← List.append_assoc] at hrest
  have hown : own i (mid ++ .tell i .freeze :: later) = own i mid ++ .freeze :: own i later := by
    rw [own, List.filterMap_append]
    simp [own, Command.to?]
  rw [hown, told_append] at hrest
  obtain ⟨hpushed, hlifo⟩ := pushed_told (t := blank source lifo) rfl (freeze_not_mem_own hmid)
  have hfrozen := isFrozen_fix ((blank source lifo).told (own i mid)).2
  have htokens := tokens_fix hpushed
  rw [hlifo, List.nil_append] at htokens
  obtain ⟨hfrozen', htokens'⟩ :=
    frozen_told (t := ((blank source lifo).told (own i mid)).2.freeze) hfrozen (own i later)
  exact ⟨_, hrest, hfrozen', htokens'.trans htokens⟩

theorem exists_step (h : ts[i]? = some t) (hsound : t.Sound) {c : Command σ α}
    (hstart : ∀ o, c = .tell i o → o ≠ .freeze ∧ o ≠ .rewind) :
    ∃ u, (ts.step c).2[i]? = some u ∧ u.Sound
      ∧ if c.isNext i then
          (ts.step c).1 = .ok (.token (t.upcoming 0)) ∧ ∀ k, u.upcoming k = t.upcoming (k + 1)
        else ∀ k, u.upcoming k = t.upcoming k := by
  have hnext := getElem?_step h c
  cases c with
  | create source lifo => exact ⟨t, hnext, hsound, fun _ => rfl⟩
  | tell j o =>
    rw [Command.to?] at hnext
    by_cases hj : j = i
    · subst hj
      rw [if_pos rfl] at hnext
      refine ⟨_, hnext, hsound.obey o, ?_⟩
      by_cases ho : o = .next
      · subst ho
        rw [if_pos (Command.isNext_tell.2 ⟨rfl, rfl⟩), step_tell h]
        exact ⟨congrArg (Except.ok ∘ Given.token) (fst_next hsound), upcoming_next hsound⟩
      · obtain ⟨hfreeze, hrewind⟩ := hstart o rfl
        rw [if_neg fun hasked => ho (Command.isNext_tell.1 hasked).2]
        exact upcoming_obey hfreeze hrewind ho
    · rw [if_neg hj] at hnext
      refine ⟨t, hnext, hsound, ?_⟩
      rw [if_neg fun hasked => hj (Command.isNext_tell.1 hasked).1]
      exact fun _ => rfl

/-- Tokens are taken in order, whatever else happens, until the tape is frozen or rewound. -/
theorem heard_next_run (h : ts[i]? = some t) (hsound : t.Sound)
    (hstart : ∀ o, .tell i o ∈ cs → o ≠ .freeze ∧ o ≠ .rewind) :
    heard (Command.isNext i) cs (ts.run cs).1
      = (List.range (cs.countP (Command.isNext i))).map
          fun k => .ok (.token (t.upcoming k)) := by
  induction cs generalizing ts t with
  | nil => rfl
  | cons c cs ih =>
    obtain ⟨u, hu, husound, hstep⟩ :=
      exists_step h hsound fun o ho => hstart o (ho ▸ List.mem_cons_self ..)
    have hrest := ih hu husound fun o ho => hstart o (List.mem_cons_of_mem _ ho)
    rw [run_cons, heard, hrest]
    by_cases hasked : c.isNext i
    · rw [if_pos hasked] at hstep
      rw [if_pos hasked, List.countP_cons_of_pos hasked, List.range_succ_eq_map, List.map_cons,
        List.map_map, hstep.1]
      simp only [hstep.2]
      rfl
    · rw [if_neg hasked] at hstep
      rw [if_neg hasked, List.countP_cons_of_neg hasked]
      simp only [hstep]

example :
    let cs : List (Command Unit Nat) := [.create () true, .tell 0 (.push 1), .tell 0 (.push 2),
      .tell 0 .freeze, .tell 0 .next, .tell 0 .next, .tell 0 .next]
    heard (Command.isNext 0) cs (run [] cs).1
      = [.ok (.token (some 2)), .ok (.token (some 1)), .ok (.token none)] :=
  rfl

/-- What is taken next is what was ahead. -/
theorem exists_next (h : (after cs)[i]? = some t) :
    ∃ u, (after cs).step (.tell i .next) = (.ok (.token (t.peek 1)), (after cs).set i u)
      ∧ u.current = t.peek 1 := by
  have hsound := sound_after h
  have htoken : t.next.1 = t.peek 1 := (fst_next hsound).trans (peek_succ hsound 0).symm
  refine ⟨t.next.2, ?_, htoken⟩
  rw [step_tell h, ← htoken]
  exact congrArg (Prod.mk _) (List.append_nil _)

/-- The cursor is at the start after freezing and rewinding. -/
theorem exists_rewound (h : (after cs)[i]? = some t) {o : Order α}
    (ho : o = .freeze ∨ o = .rewind) :
    ∃ u, (after (cs ++ [.tell i o]))[i]? = some u ∧ u.position = -1 ∧ u.current = none
      ∧ (o = .freeze → u.isFrozen) := by
  have hnext := getElem?_after h [.tell i o]
  have hown : own i [(.tell i o : Command σ α)] = [o] := by simp [own, Command.to?]
  rw [hown] at hnext
  refine ⟨_, hnext, ?_⟩
  rcases ho with rfl | rfl
  · exact ⟨rfl, rfl, fun _ => isFrozen_fix t⟩
  · exact ⟨rfl, rfl, nofun⟩

/-- A replay comes last, at the start; nothing else changes. -/
theorem exists_replay (h : (after cs)[i]? = some t) (hfrozen : t.isFrozen) :
    ∃ r, after (cs ++ [.tell i .replay]) = after cs ++ [r] ∧ r.isFrozen ∧ r.tokens = t.tokens
      ∧ r.position = -1 ∧ r.current = none := by
  refine ⟨⟨t.source, false, none, t.tokens, t.length, -1, none⟩, ?_, rfl, rfl, rfl, rfl⟩
  have hreplay : t.obey .replay
      = (.ok (.tape ⟨t.source, false, none, t.tokens, t.length, -1, none⟩), t) := by
    rw [obey, replay, isFrozen_iff.1 hfrozen]
    rfl
  rw [after_concat, step_tell h, hreplay]
  exact congrArg (· ++ _) (set_of_getElem? h)

/-- A replay stays equal to its origin, whatever happens to either of them. -/
theorem exists_equal (h : (after cs)[i]? = some t) (hfrozen : t.isFrozen)
    (later : List (Command σ α)) :
    ∃ u r, (after (cs ++ .tell i .replay :: later))[i]? = some u
      ∧ (after (cs ++ .tell i .replay :: later))[(after cs).length]? = some r
      ∧ u.tokens = t.tokens ∧ r.tokens = t.tokens
      ∧ ∀ eq : α → α → Bool, (∀ a, eq a a) → r.same eq u ∧ u.same eq r := by
  obtain ⟨r, hafter, hr, htokens, -, -⟩ := exists_replay h hfrozen
  have hsplit : cs ++ .tell i .replay :: later = (cs ++ [.tell i .replay]) ++ later := by simp
  have hold : (after (cs ++ [.tell i .replay]))[i]? = some t := by
    rw [hafter, List.getElem?_append_left (List.getElem?_eq_some_iff.1 h).1, h]
  have hnew : (after (cs ++ [.tell i .replay]))[(after cs).length]? = some r := by
    rw [hafter]
    exact List.getElem?_concat_length
  obtain ⟨hu, hutokens⟩ := frozen_told hfrozen (own i later)
  obtain ⟨hr', hrtokens⟩ := frozen_told hr (own (after cs).length later)
  rw [hsplit]
  refine ⟨_, _, getElem?_after hold later, getElem?_after hnew later, hutokens,
    hrtokens.trans htokens, fun eq heq => ?_⟩
  have hsame := (hrtokens.trans htokens).trans hutokens.symm
  exact ⟨same_of_frozen heq hr' hu hsame, same_of_frozen heq hu hr' hsame.symm⟩

/-- What holds of all tapes after some commands, and of what they become later. -/
structure Laws (cs : List (Command σ α)) : Prop where
  shown {i : Nat} {t : Tape σ α} (h : (after cs)[i]? = some t) : t.Shown
  building {i : Nat} {t : Tape σ α} (h : (after cs)[i]? = some t)
    (hbuilding : t.isFrozen = false) :
    t.length = 0 ∧ t.tokens = [] ∧ t.current = none ∧ t.next.1 = none
      ∧ ∀ offset, t.peek offset = none
  fixed (source : σ) (lifo : Bool) (mid later : List (Command σ α)) {i : Nat}
    (hi : i = (after cs).length) (hmid : .tell i .freeze ∉ mid) :
    ∃ t, (after (cs ++ .create source lifo :: mid ++ .tell i .freeze :: later))[i]? = some t
      ∧ t.isFrozen ∧ t.tokens = if lifo then (pushes i mid).reverse else pushes i mid
  frozen {i : Nat} {t : Tape σ α} (h : (after cs)[i]? = some t) (hfrozen : t.isFrozen)
    (later : List (Command σ α)) :
    ∃ u, (after (cs ++ later))[i]? = some u ∧ u.isFrozen ∧ u.tokens = t.tokens
  refused {i : Nat} {t : Tape σ α} (h : (after cs)[i]? = some t) {o : Order α}
    (hrefuses : t.Refuses o) :
    ∃ f r, f.report? = some r ∧ r.kind = .streamFrozen
      ∧ (after cs).step (.tell i o) = (.error f, after cs)
  answered {i : Nat} {t : Tape σ α} (h : (after cs)[i]? = some t) {o : Order α}
    (hrefuses : ¬t.Refuses o) : ∃ given, ((after cs).step (.tell i o)).1 = .ok given
  cursor {i : Nat} {t : Tape σ α} (h : (after cs)[i]? = some t) :
    t.length = t.tokens.length ∧ -1 ≤ t.position ∧ t.position ≤ t.length
      ∧ t.current = t.peek 0 ∧ (t.atEnd ↔ t.peek 1 = none)
  next {i : Nat} {t : Tape σ α} (h : (after cs)[i]? = some t) :
    ∃ u, (after cs).step (.tell i .next) = (.ok (.token (t.peek 1)), (after cs).set i u)
      ∧ u.current = t.peek 1
  rewound {i : Nat} {t : Tape σ α} (h : (after cs)[i]? = some t) {o : Order α}
    (ho : o = .freeze ∨ o = .rewind) :
    ∃ u, (after (cs ++ [.tell i o]))[i]? = some u ∧ u.position = -1 ∧ u.current = none
      ∧ (o = .freeze → u.isFrozen)
  reading {i : Nat} {t : Tape σ α} (h : (after cs)[i]? = some t) (hstart : t.position = -1)
    (later : List (Command σ α)) (hlater : ∀ o, .tell i o ∈ later → o ≠ .freeze ∧ o ≠ .rewind) :
    heard (Command.isNext i) later ((after cs).run later).1
      = (List.range (later.countP (Command.isNext i))).map fun k => .ok (.token t.tokens[k]?)
  replayed {i : Nat} {t : Tape σ α} (h : (after cs)[i]? = some t) (hfrozen : t.isFrozen) :
    ∃ r, after (cs ++ [.tell i .replay]) = after cs ++ [r] ∧ r.isFrozen ∧ r.tokens = t.tokens
      ∧ r.position = -1 ∧ r.current = none
  equal {i : Nat} {t : Tape σ α} (h : (after cs)[i]? = some t) (hfrozen : t.isFrozen)
    (later : List (Command σ α)) :
    ∃ u r, (after (cs ++ .tell i .replay :: later))[i]? = some u
      ∧ (after (cs ++ .tell i .replay :: later))[(after cs).length]? = some r
      ∧ u.tokens = t.tokens ∧ r.tokens = t.tokens
      ∧ ∀ eq : α → α → Bool, (∀ a, eq a a) → r.same eq u ∧ u.same eq r
  apart {i : Nat} {t : Tape σ α} (h : (after cs)[i]? = some t) {later later' : List (Command σ α)}
    (hown : own i later = own i later') :
    (after (cs ++ later))[i]? = (after (cs ++ later'))[i]?
      ∧ heard (fun c => (c.to? i).isSome) later ((after cs).run later).1
        = heard (fun c => (c.to? i).isSome) later' ((after cs).run later').1

theorem obey_laws (cs : List (Command σ α)) : Laws cs where
  shown h := (sound_after h).shown
  building h hbuilding := by
    have hsound := sound_after h
    have htokens := hsound.building hbuilding
    have hpeek := peek_of_building hsound hbuilding
    have hlength := hsound.length
    have hnext := fst_next hsound
    rw [htokens] at hlength
    rw [upcoming, htokens, List.getElem?_nil] at hnext
    exact ⟨hlength, htokens, hsound.current.trans (hpeek 0), hnext, hpeek⟩
  fixed source lifo mid later _ hi hmid := exists_fixed cs mid later source lifo hi hmid
  frozen h hfrozen later := ⟨_, getElem?_after h later, frozen_told hfrozen _⟩
  refused h _ hrefuses := by
    obtain ⟨f, r, hr, hkind, hobey⟩ := obey_of_refuses hrefuses
    refine ⟨f, r, hr, hkind, ?_⟩
    rw [step_tell h, hobey, set_of_getElem? h]
    exact congrArg (Prod.mk _) (List.append_nil _)
  answered h _ hrefuses := by
    rw [step_tell h]
    exact obey_of_not_refuses hrefuses
  cursor h :=
    have hsound := sound_after h
    ⟨hsound.length, hsound.low, hsound.high, hsound.current, atEnd_iff hsound⟩
  next h := exists_next h
  rewound h _ ho := exists_rewound h ho
  reading h hstart later hlater := by
    have hheard := heard_next_run h (sound_after h) hlater
    simpa only [upcoming_of_start hstart] using hheard
  replayed h hfrozen := exists_replay h hfrozen
  equal h hfrozen later := exists_equal h hfrozen later
  apart h later later' hown := by
    rw [getElem?_after h, getElem?_after h, heard_run h, heard_run h, hown]
    exact ⟨rfl, rfl⟩

end Tapes

end TemplateLexer
