import TemplateLexer.Proofs.RecordFaults

set_option autoImplicit false

namespace TemplateLexer

theorem Except.mapM_congr {ε α β : Type} {f g : α → Except ε β} {xs : List α}
    (h : ∀ x ∈ xs, f x = g x) : xs.mapM f = xs.mapM g := by
  induction xs with
  | nil => rfl
  | cons x xs ih =>
    obtain ⟨hx, hxs⟩ := List.forall_mem_cons.1 h
    rw [List.mapM_cons, List.mapM_cons, hx, ih hxs]

theorem Room.eq_of_below? {room : Room} {n : Nat} (h : room.below? = some (.levels n)) :
    room = .levels (n + 1) := by
  cases room with
  | endless => cases h
  | levels m =>
    cases m with
    | zero => cases h
    | succ m =>
      cases h
      rfl

theorem Room.eq_of_below?_none {room : Room} (h : room.below? = none) : room = .levels 0 := by
  cases room with
  | endless => cases h
  | levels m =>
    cases m with
    | zero => rfl
    | succ m => cases h

namespace Json

variable {cs rest : List Char} {j v : Json} {key s : String} {items done : List Json}
  {entries before : List (String × Json)} {fuel n : Nat} {limits : Limits}

section Suffixes

theorem unit?_suffix (h : unit? cs = some (n, rest)) : rest <:+ cs := by
  rw [unit?.eq_def] at h
  split at h
  · rename_i a b c d more
    simp only [Option.bind_eq_bind, Option.bind_eq_some_iff, Option.some.injEq,
      Prod.mk.injEq] at h
    obtain ⟨_, -, _, -, _, -, _, -, -, rfl⟩ := h
    exact List.suffix_append [a, b, c, d] more
  · cases h

theorem joinUnits_suffix (n : Nat) (rest : List Char) : (joinUnits n rest).2 <:+ rest := by
  rw [joinUnits.eq_def]
  split
  · split
    · rename_i more
      split
      · rename_i hunit
        split
        · exact (unit?_suffix hunit).trans (List.suffix_append ['\\', 'u'] more)
        · exact List.suffix_refl _
      · exact List.suffix_refl _
    · exact List.suffix_refl _
  · split
    · exact List.suffix_refl _
    · exact List.suffix_refl _

theorem stringFrom_suffix {read : List Char} (h : stringFrom fuel read cs = some (s, rest)) :
    rest <:+ cs := by
  fun_induction stringFrom fuel read cs with
  | case1 | case5 | case7 => cases h
  | case2 =>
    cases h
    exact List.suffix_cons _ _
  | case3 fuel read more ih =>
    obtain ⟨⟨n, tail⟩, hunit, h⟩ := Option.bind_eq_some_iff.1 h
    have htail := (joinUnits_suffix n tail).trans (unit?_suffix hunit)
    exact ((ih _ _ h).trans htail).trans (List.suffix_append ['\\', 'u'] more)
  | case4 fuel read c more _ ih =>
    obtain ⟨_, -, h⟩ := Option.bind_eq_some_iff.1 h
    exact (ih _ h).trans (List.suffix_append ['\\', c] more)
  | case6 _ _ _ _ _ _ _ _ ih => exact (ih h).trans (List.suffix_cons _ _)

theorem fraction_suffix (cs : List Char) : (fraction cs).2 <:+ cs := by
  rw [fraction.eq_def]
  split
  · rename_i more
    have hdigits := digits_suffix more
    split
    · exact List.suffix_refl _
    · rename_i hspan
      rw [hspan] at hdigits
      exact hdigits.trans (List.suffix_cons _ _)
  · exact List.suffix_refl _

theorem exponent_suffix (cs : List Char) : (exponent cs).2 <:+ cs := by
  rw [exponent.eq_def]
  split
  · rename_i e more
    split
    · split
      rename_i sign digitsOf hsign
      have hsigned : digitsOf <:+ more := by
        split at hsign <;> cases hsign
        · exact List.suffix_cons _ _
        · exact List.suffix_cons _ _
        · exact List.suffix_refl _
      have hdigits := digits_suffix digitsOf
      split
      · exact List.suffix_refl _
      · rename_i hspan
        rw [hspan] at hdigits
        exact (hdigits.trans hsigned).trans (List.suffix_cons _ _)
    · exact List.suffix_refl _
  · exact List.suffix_refl _

theorem numeral_suffix (h : numeral cs = some (j, rest)) : rest <:+ cs := by
  obtain ⟨negative, whole, tail, htail, h⟩ := exists_numeralFrom h
  have hend : (numeralFrom negative whole tail).2 = (exponent (fraction tail).2).2 := by
    dsimp only [numeralFrom]
    split <;> rfl
  rw [h] at hend
  obtain rfl : rest = (exponent (fraction tail).2).2 := hend
  exact ((exponent_suffix _).trans (fraction_suffix tail)).trans htail

theorem skipBlanks_suffix (cs : List Char) : skipBlanks cs <:+ cs := List.dropWhile_suffix _

end Suffixes

section Containers

def isOpening (c : Char) : Bool := c == '[' || c == '\x7b'

/-- How many brackets open in a text. -/
def openings (cs : List Char) : Nat := cs.countP isOpening

theorem openings_le (h : rest <:+ cs) : openings rest ≤ openings cs := h.sublist.countP_le

theorem openings_le_of_skipBlanks {c : Char} (h : skipBlanks cs = c :: rest) :
    openings rest ≤ openings cs :=
  openings_le ((List.suffix_cons c rest).trans (h ▸ skipBlanks_suffix cs))

mutual

def containers : Json → Nat
  | arr items => containersOf items + 1
  | obj entries => containersBelow entries + 1
  | _ => 0

def containersOf : List Json → Nat
  | [] => 0
  | j :: rest => j.containers + containersOf rest

def containersBelow : List (String × Json) → Nat
  | [] => 0
  | (_, j) :: rest => j.containers + containersBelow rest

end

theorem containersOf_append (xs ys : List Json) :
    containersOf (xs ++ ys) = containersOf xs + containersOf ys := by
  induction xs with
  | nil => exact (Nat.zero_add _).symm
  | cons j rest ih => rw [List.cons_append, containersOf, containersOf, ih, Nat.add_assoc]

theorem containersOf_reverse : containersOf items.reverse = containersOf items := by
  induction items with
  | nil => rfl
  | cons j rest ih =>
    rw [List.reverse_cons, containersOf_append, ih, containersOf, containersOf, containersOf,
      Nat.add_zero, Nat.add_comm]

theorem containers_le_of_mem (h : j ∈ items) : j.containers ≤ containersOf items := by
  induction items with
  | nil => cases h
  | cons i rest ih =>
    rw [containersOf]
    rcases List.mem_cons.1 h with rfl | hmem
    · omega
    · have hrest := ih hmem
      omega

theorem containersBelow_putKey (key : String) (j : Json) (entries : List (String × Json)) :
    containersBelow (putKey key j entries) ≤ j.containers + containersBelow entries := by
  induction entries with
  | nil => exact Nat.le_refl _
  | cons e rest ih =>
    rw [putKey]
    split
    · simp only [containersBelow]
      omega
    · simp only [containersBelow]
      omega

theorem containers_le_of_lookupKey (h : lookupKey key entries = some j) :
    j.containers ≤ containersBelow entries := by
  induction entries with
  | nil => cases h
  | cons e rest ih =>
    rw [lookupKey] at h
    rw [containersBelow]
    split at h
    · cases h
      omega
    · have hrest := ih h
      omega

theorem isScalar_containers (h : j.isScalar = true) : j.containers = 0 := by
  cases j <;> first | rfl | cases h

end Containers

section Counted

/-- With some fuel, every array and object that is read opens with a bracket of its own. -/
structure ReadsCounted (fuel : Nat) : Prop where
  value : ∀ limits cs j rest, valueFrom fuel limits cs = .ok (j, rest) →
    j.containers + openings rest ≤ openings cs
  items : ∀ limits done cs j rest, itemsFrom fuel limits done cs = .ok (j, rest) →
    j.containers + openings rest ≤ containersOf done + openings cs + 1
  entries : ∀ limits done cs j rest, entriesFrom fuel limits done cs = .ok (j, rest) →
    j.containers + openings rest ≤ containersBelow done + openings cs + 1

theorem boundNumeral_ok (h : boundNumeral limits cs = .ok (j, rest)) :
    numeral cs = some (j, rest) := by
  rw [boundNumeral] at h
  split at h
  · cases h
  · rename_i hnumeral
    split at h
    · cases h
    · cases h
      exact hnumeral

theorem openings_cons_of_isOpening {c : Char} (h : isOpening c = true) (cs : List Char) :
    openings (c :: cs) = openings cs + 1 :=
  List.countP_cons_of_pos h

theorem ReadsCounted.value_succ (ih : ReadsCounted fuel)
    (h : valueFrom (fuel + 1) limits cs = .ok (j, rest)) :
    j.containers + openings rest ≤ openings cs := by
  have hscalar : j.isScalar = true → rest <:+ cs → j.containers + openings rest ≤ openings cs := by
    intro hj hrest
    rw [isScalar_containers hj, Nat.zero_add]
    exact openings_le hrest
  rw [valueFrom.eq_def] at h
  split at h
  · cases h
  · rename_i heq
    cases heq
    split at h
    case h_1 more =>
      split at h
      · cases h
      · rename_i hstring
        cases h
        exact hscalar rfl ((stringFrom_suffix hstring).trans (List.suffix_cons _ _))
    case h_2 more =>
      rw [openings_cons_of_isOpening rfl]
      split at h
      · cases h
      · split at h
        · rename_i hskip
          cases h
          have hrest := openings_le_of_skipBlanks hskip
          simp only [containers, containersOf]
          omega
        · have hitems := ih.items _ _ _ _ _ h
          have hskip := openings_le (skipBlanks_suffix more)
          rw [containersOf] at hitems
          omega
    case h_3 more =>
      rw [openings_cons_of_isOpening rfl]
      split at h
      · cases h
      · split at h
        · rename_i hskip
          cases h
          have hrest := openings_le_of_skipBlanks hskip
          simp only [containers, containersBelow]
          omega
        · have hentries := ih.entries _ _ _ _ _ h
          have hskip := openings_le (skipBlanks_suffix more)
          rw [containersBelow] at hentries
          omega
    case h_10 =>
      exact hscalar (isScalar_boundNumeral h) (numeral_suffix (boundNumeral_ok h))
    all_goals
      cases h
      exact hscalar rfl (by simp [List.suffix_cons_iff])

theorem ReadsCounted.items_succ (ih : ReadsCounted fuel)
    (h : itemsFrom (fuel + 1) limits done cs = .ok (j, rest)) :
    j.containers + openings rest ≤ containersOf done + openings cs + 1 := by
  obtain ⟨v, behind, hv, h⟩ := exists_of_itemsFrom h
  have hvalue := ih.value _ _ _ _ hv
  rcases h with ⟨next, hskip, h⟩ | ⟨hskip, rfl⟩
  · have hitems := ih.items _ _ _ _ _ h
    have hbehind := openings_le_of_skipBlanks hskip
    have hnext := openings_le (skipBlanks_suffix next)
    rw [containersOf] at hitems
    omega
  · have hbehind := openings_le_of_skipBlanks hskip
    rw [containers, containersOf_reverse, containersOf]
    omega

theorem ReadsCounted.entries_succ (ih : ReadsCounted fuel)
    (h : entriesFrom (fuel + 1) limits before cs = .ok (j, rest)) :
    j.containers + openings rest ≤ containersBelow before + openings cs + 1 := by
  obtain ⟨named, key, tail, colon, v, behind, rfl, hkey, hcolon, hv, h⟩ := exists_of_entriesFrom h
  have hstring := openings_le ((stringFrom_suffix hkey).trans (List.suffix_cons '"' named))
  have htail := openings_le_of_skipBlanks hcolon
  have hblanks := openings_le (skipBlanks_suffix colon)
  have hvalue := ih.value _ _ _ _ hv
  have hput := containersBelow_putKey key v before
  rcases h with ⟨next, hskip, h⟩ | ⟨hskip, rfl⟩
  · have hentries := ih.entries _ _ _ _ _ h
    have hbehind := openings_le_of_skipBlanks hskip
    have hnext := openings_le (skipBlanks_suffix next)
    omega
  · have hbehind := openings_le_of_skipBlanks hskip
    rw [containers]
    omega

theorem readsCounted (fuel : Nat) : ReadsCounted fuel := by
  induction fuel with
  | zero => exact ⟨fun _ _ _ _ h => (by cases h), fun _ _ _ _ _ h => (by cases h),
      fun _ _ _ _ _ h => (by cases h)⟩
  | succ fuel ih => exact ⟨fun _ _ _ _ h => ih.value_succ h, fun _ _ _ _ _ h => ih.items_succ h,
      fun _ _ _ _ _ h => ih.entries_succ h⟩

theorem containers_le_of_readWithin {text : String} (h : readWithin limits text = .ok j) :
    j.containers ≤ openings text.toList := by
  rw [readWithin] at h
  split at h
  · cases h
  · rename_i v rest hv
    have hvalue := (readsCounted _).value _ _ _ _ hv
    have hblanks := openings_le (skipBlanks_suffix text.toList)
    split at h
    · cases h
      omega
    · cases h

end Counted

section Deep

def Limits.IsBelow (limits : Limits) (cs : List Char) : Prop :=
  ∃ n, limits.room = .levels n ∧ n < openings cs

theorem Limits.IsBelow.mono {ds : List Char} (h : limits.IsBelow cs)
    (hle : openings cs ≤ openings ds) : limits.IsBelow ds := by
  obtain ⟨n, hroom, hn⟩ := h
  exact ⟨n, hroom, hn.trans_le hle⟩

/-- With some fuel, a reader goes too deep only where more brackets open than there is room for. -/
structure RunsOut (fuel : Nat) : Prop where
  value : ∀ limits cs, valueFrom fuel limits cs = .error .tooDeep → limits.IsBelow cs
  items : ∀ limits done cs, itemsFrom fuel limits done cs = .error .tooDeep → limits.IsBelow cs
  entries : ∀ limits done cs, entriesFrom fuel limits done cs = .error .tooDeep → limits.IsBelow cs

theorem boundNumeral_ne_tooDeep : boundNumeral limits cs ≠ .error .tooDeep := by
  rw [boundNumeral]
  split
  · simp
  · split <;> simp

theorem Limits.IsBelow.of_below? {c : Char} {inner : Limits} (hbelow : limits.below? = some inner)
    (hc : isOpening c = true) (h : inner.IsBelow (skipBlanks cs)) : limits.IsBelow (c :: cs) := by
  obtain ⟨n, hroom, hn⟩ := h
  obtain ⟨room, hlevels, rfl⟩ := Option.map_eq_some_iff.1 hbelow
  obtain rfl : room = .levels n := hroom
  have hblanks := openings_le (skipBlanks_suffix cs)
  refine ⟨n + 1, Room.eq_of_below? hlevels, ?_⟩
  rw [openings_cons_of_isOpening hc]
  omega

theorem Limits.IsBelow.of_below?_none {c : Char} (hbelow : limits.below? = none)
    (hc : isOpening c = true) : limits.IsBelow (c :: cs) := by
  refine ⟨0, Room.eq_of_below?_none (Option.map_eq_none_iff.1 hbelow), ?_⟩
  rw [openings_cons_of_isOpening hc]
  omega

theorem RunsOut.value_succ (ih : RunsOut fuel)
    (h : valueFrom (fuel + 1) limits cs = .error .tooDeep) : limits.IsBelow cs := by
  rw [valueFrom.eq_def] at h
  split at h
  · cases h
  · rename_i heq
    cases heq
    split at h
    case h_1 => split at h <;> cases h
    case h_2 =>
      split at h
      · rename_i hbelow
        exact .of_below?_none hbelow rfl
      · rename_i hbelow
        split at h
        · cases h
        · exact .of_below? hbelow rfl (ih.items _ _ _ h)
    case h_3 =>
      split at h
      · rename_i hbelow
        exact .of_below?_none hbelow rfl
      · rename_i hbelow
        split at h
        · cases h
        · exact .of_below? hbelow rfl (ih.entries _ _ _ h)
    case h_10 => exact absurd h boundNumeral_ne_tooDeep
    all_goals cases h

theorem RunsOut.items_succ (ih : RunsOut fuel)
    (h : itemsFrom (fuel + 1) limits done cs = .error .tooDeep) : limits.IsBelow cs := by
  rw [itemsFrom] at h
  split at h
  · rename_i hv
    cases h
    exact ih.value _ _ hv
  · rename_i v behind hv
    have hvalue := (readsCounted fuel).value _ _ _ _ hv
    split at h
    · rename_i next hskip
      have hbehind := openings_le_of_skipBlanks hskip
      have hnext := openings_le (skipBlanks_suffix next)
      exact (ih.items _ _ _ h).mono (by omega)
    · cases h
    · cases h

theorem RunsOut.entries_succ (ih : RunsOut fuel)
    (h : entriesFrom (fuel + 1) limits before cs = .error .tooDeep) : limits.IsBelow cs := by
  rw [entriesFrom.eq_def] at h
  split at h
  · cases h
  · rename_i heq
    cases heq
    split at h
    · rename_i named
      split at h
      · cases h
      · rename_i hkey
        have hstring := openings_le ((stringFrom_suffix hkey).trans (List.suffix_cons '"' named))
        split at h
        · rename_i colon hcolon
          have htail := openings_le_of_skipBlanks hcolon
          have hblanks := openings_le (skipBlanks_suffix colon)
          split at h
          · rename_i hv
            cases h
            exact (ih.value _ _ hv).mono (by omega)
          · rename_i hv
            have hvalue := (readsCounted fuel).value _ _ _ _ hv
            split at h
            · rename_i next hskip
              have hbehind := openings_le_of_skipBlanks hskip
              have hnext := openings_le (skipBlanks_suffix next)
              exact (ih.entries _ _ _ h).mono (by omega)
            · cases h
            · cases h
        · cases h
    · cases h

theorem runsOut (fuel : Nat) : RunsOut fuel := by
  induction fuel with
  | zero => exact ⟨fun _ _ h => (by cases h), fun _ _ _ h => (by cases h),
      fun _ _ _ h => (by cases h)⟩
  | succ fuel ih => exact ⟨fun _ _ h => ih.value_succ h, fun _ _ _ h => ih.items_succ h,
      fun _ _ _ h => ih.entries_succ h⟩

theorem isBelow_of_readWithin {text : String} (h : readWithin limits text = .error .tooDeep) :
    limits.IsBelow text.toList := by
  rw [readWithin] at h
  split at h
  · rename_i hv
    cases h
    exact ((runsOut _).value _ _ hv).mono (openings_le (skipBlanks_suffix _))
  · split at h <;> cases h

theorem valueFrom_brackets (hroom : limits.room = .levels n) (hfuel : 2 * n < fuel) :
    valueFrom fuel limits (List.replicate (n + 1) '[' ++ rest) = .error .tooDeep := by
  induction n generalizing limits fuel with
  | zero =>
    obtain ⟨fuel, rfl⟩ := Nat.exists_eq_succ_of_ne_zero (Nat.ne_zero_of_lt hfuel)
    have hbelow : limits.below? = none := by rw [Limits.below?, hroom]; rfl
    simp [valueFrom, hbelow]
  | succ n ih =>
    obtain ⟨fuel, rfl⟩ : ∃ more, fuel = more + 2 := ⟨fuel - 2, by omega⟩
    have hbelow : limits.below? = some { limits with room := .levels n } := by
      rw [Limits.below?, hroom]
      rfl
    have hnext : valueFrom fuel { limits with room := .levels n }
        (List.replicate (n + 1) '[' ++ rest) = .error .tooDeep := ih rfl (by omega)
    rw [List.replicate_succ, List.cons_append] at hnext ⊢
    have hskip : skipBlanks (List.replicate (n + 1) '[' ++ rest)
        = '[' :: (List.replicate n '[' ++ rest) := by
      rw [List.replicate_succ, List.cons_append, skipBlanks, List.dropWhile_cons_of_neg (by decide)]
    simp [valueFrom, hbelow, hskip, itemsFrom, hnext]

end Deep

section Free

def IsCurtailed {α : Type} (x y : Except Fault α) : Prop :=
  x = y ∨ x = .error .tooLong ∨ x = .error .tooDeep

theorem IsCurtailed.refl {α : Type} (x : Except Fault α) : IsCurtailed x x := .inl rfl

theorem IsCurtailed.of_error {α β : Type} {e : Fault} {y : Except Fault α} {z : Except Fault β}
    (h : IsCurtailed (.error e) y) (hy : y = .error e → z = .error e) :
    IsCurtailed (.error e) z := by
  rcases h with rfl | h | h
  · exact .inl (hy rfl).symm
  · cases h
    exact .inr (.inl rfl)
  · cases h
    exact .inr (.inr rfl)

theorem IsCurtailed.eq_of_ok {α : Type} {a : α} {y : Except Fault α} (h : IsCurtailed (.ok a) y) :
    y = .ok a := by
  rcases h with h | h | h
  · exact h.symm
  · cases h
  · cases h

theorem isCurtailed_boundNumeral (limits : Limits) (cs : List Char) :
    IsCurtailed (boundNumeral limits cs) (boundNumeral .free cs) := by
  rw [boundNumeral, boundNumeral]
  split
  · exact .refl _
  · rename_i v _ _
    have hfree : Limits.free.excludes v = false := by cases v <;> rfl
    simp only [hfree]
    split
    · exact .inr (.inl rfl)
    · exact .refl _

/-- With some fuel, values, the rest of arrays and the rest of objects are read as without limits,
unless reading comes to one. -/
structure ReadsCurtailed (fuel : Nat) : Prop where
  value : ∀ limits cs, IsCurtailed (valueFrom fuel limits cs) (valueFrom fuel .free cs)
  items : ∀ limits done cs,
    IsCurtailed (itemsFrom fuel limits done cs) (itemsFrom fuel .free done cs)
  entries : ∀ limits done cs,
    IsCurtailed (entriesFrom fuel limits done cs) (entriesFrom fuel .free done cs)

theorem ReadsCurtailed.value_succ (ih : ReadsCurtailed fuel) (limits : Limits) (cs : List Char) :
    IsCurtailed (valueFrom (fuel + 1) limits cs) (valueFrom (fuel + 1) .free cs) := by
  have hfree : Limits.free.below? = some .free := rfl
  simp only [valueFrom.eq_def (fuel + 1), hfree]
  split
  case h_2 =>
    split
    · exact .inr (.inr rfl)
    · split
      · exact .refl _
      · exact ih.items _ _ _
  case h_3 =>
    split
    · exact .inr (.inr rfl)
    · split
      · exact .refl _
      · exact ih.entries _ _ _
  case h_10 => exact isCurtailed_boundNumeral limits _
  all_goals exact .refl _

theorem ReadsCurtailed.items_succ (ih : ReadsCurtailed fuel) (limits : Limits) (done : List Json)
    (cs : List Char) :
    IsCurtailed (itemsFrom (fuel + 1) limits done cs) (itemsFrom (fuel + 1) .free done cs) := by
  have hvalue := ih.value limits cs
  rw [itemsFrom, itemsFrom]
  cases hv : valueFrom fuel limits cs with
  | error e =>
    rw [hv] at hvalue
    exact hvalue.of_error fun hfree => by rw [hfree]
  | ok v =>
    rw [hv] at hvalue
    rw [hvalue.eq_of_ok]
    dsimp only
    split
    · exact ih.items _ _ _
    · exact .refl _
    · exact .refl _

theorem ReadsCurtailed.entries_succ (ih : ReadsCurtailed fuel) (limits : Limits)
    (before : List (String × Json)) (cs : List Char) :
    IsCurtailed (entriesFrom (fuel + 1) limits before cs)
      (entriesFrom (fuel + 1) .free before cs) := by
  simp only [entriesFrom.eq_def (fuel + 1)]
  split
  · split
    · exact .refl _
    · split
      · rename_i colon _
        have hvalue := ih.value limits (skipBlanks colon)
        cases hv : valueFrom fuel limits (skipBlanks colon) with
        | error e =>
          rw [hv] at hvalue
          exact hvalue.of_error fun hfree => by rw [hfree]
        | ok v =>
          rw [hv] at hvalue
          rw [hvalue.eq_of_ok]
          dsimp only
          split
          · exact ih.entries _ _ _
          · exact .refl _
          · exact .refl _
      · exact .refl _
  · exact .refl _

theorem readsCurtailed (fuel : Nat) : ReadsCurtailed fuel := by
  induction fuel with
  | zero => exact ⟨fun _ _ => .refl _, fun _ _ _ => .refl _, fun _ _ _ => .refl _⟩
  | succ fuel ih => exact ⟨ih.value_succ, ih.items_succ, ih.entries_succ⟩

theorem isCurtailed_readWithin (limits : Limits) (text : String) :
    IsCurtailed (readWithin limits text) (readWithin .free text) := by
  have hvalue := (readsCurtailed (2 * (skipBlanks text.toList).length + 2)).value limits
    (skipBlanks text.toList)
  rw [readWithin, readWithin]
  cases hv : valueFrom (2 * (skipBlanks text.toList).length + 2) limits
      (skipBlanks text.toList) with
  | error e =>
    rw [hv] at hvalue
    exact hvalue.of_error fun hfree => by simp only [hfree]
  | ok v =>
    rw [hv] at hvalue
    simp only [hvalue.eq_of_ok]
    exact .refl _

end Free

end Json

namespace Record

variable {P : Json → Prop} {room : Room} {j : Json} {f : Failure}

theorem IsRecord.endless (h : IsRecord P room j) : IsRecord P .endless j := by
  induction h with
  | bare _ hshape htokens => exact .bare below?_endless hshape htokens
  | stream _ hshape htokens hitems _ ih => exact .stream below?_endless hshape htokens hitems ih
  | token _ hshape hkind hline _ ih => exact .token below?_endless hshape hkind hline ih

theorem IsRecord.read_endless (h : IsRecord P room j) (hj : j.IsKeyed) :
    read room j = read .endless j := by
  induction h with
  | bare hroom hshape htokens =>
    rw [read_stream_items hroom hshape, read_stream_items below?_endless hshape,
      readItems_of_mem htokens, readItems_of_mem htokens]
  | @stream room inner entries items hroom hshape htokens _ _ ih =>
    have hkeyed := Json.isKeyed_arr_iff.1 (hj.of_lookupKey htokens)
    have hitems : items.mapM (read inner) = items.mapM (read .endless) :=
      Except.mapM_congr fun i hi => ih i hi (hkeyed i hi)
    rw [read_stream_items hroom hshape, read_stream_items below?_endless hshape, htokens,
      readItems, readItems, hitems]
  | @token room inner entries shape kind line hroom hshape _ _ _ ih =>
    have hkeys := (Json.isKeyed_obj_iff.1 hj).1
    have hfields : shape.standards.mapM (readField inner entries)
        = shape.standards.mapM (readField .endless entries) := by
      refine Except.mapM_congr fun d hd => ?_
      rw [readField, readField]
      cases hlookup : lookupKey d.1 entries with
      | none => rfl
      | some i =>
        dsimp only
        split
        · rename_i hstream
          rw [ih d.1 (List.mem_map_of_mem hd) i hlookup hstream (hj.of_lookupKey hlookup)]
        · rfl
    rw [read_token hroom hkeys hshape, read_token below?_endless hkeys hshape, hfields]

theorem IsNoArray.endless (h : IsNoArray room j f) : f = .tooDeep ∨ IsNoArray .endless j f := by
  cases h with
  | text hs =>
    rw [notRecord]
    split
    · exact .inr (.text hs)
    · exact .inl rfl
  | keys hs =>
    rw [notRecord]
    split
    · exact .inr (.keys hs)
    · exact .inl rfl
  | scalar h hj => exact .inr (.scalar h hj)

theorem Fails.endless (h : Fails room j f) : f = .tooDeep ∨ Fails .endless j f := by
  induction h with
  | noRoom => exact .inl rfl
  | noObject _ h => exact .inr (.noObject below?_endless h)
  | noShape _ hshape => exact .inr (.noShape below?_endless hshape)
  | shape _ hshape hnull hf => exact .inr (.shape below?_endless hshape hnull hf)
  | tokens _ hshape htokens hf =>
    exact hf.endless.imp_right fun hf => .tokens below?_endless hshape htokens hf
  | item _ hshape htokens hbefore _ ih =>
    exact ih.imp_right fun h =>
      .item below?_endless hshape htokens (fun i hi => (hbefore i hi).endless) h
  | kind _ hshape hkind hf => exact .inr (.kind below?_endless hshape hkind hf)
  | field _ hshape hkind hkeys hbefore hj hstream _ ih =>
    exact ih.imp_right fun h => .field below?_endless hshape hkind hkeys
      (fun key hkey i hi his => (hbefore key hkey i hi his).endless) hj hstream h
  | unfinished _ hshape hkind hfields h =>
    exact .inr (.unfinished below?_endless hshape hkind
      (fun key hkey i hi his => (hfields key hkey i hi his).endless) h)

theorem read_endless_or (hj : j.IsKeyed) (room : Room) :
    read room j = read .endless j ∨ read room j = .error .tooDeep := by
  rcases isJudged hj room with hrecord | ⟨f, hf⟩
  · exact .inl (hrecord.read_endless hj)
  · rw [hf.read_eq hj]
    rcases hf.endless with rfl | hendless
    · exact .inr rfl
    · exact .inl (hendless.read_eq hj).symm

/-- There is no room for a record only where a value is nested as deep as there is room for. -/
theorem Fails.exists_levels (h : Fails room j f) (hf : f = .tooDeep) :
    ∃ n, room = .levels n ∧ n ≤ j.containers := by
  induction h with
  | noRoom hroom => exact ⟨0, Room.eq_of_below?_none hroom, Nat.zero_le _⟩
  | noObject | noShape | unfinished => cases hf
  | shape _ _ _ hname | kind _ _ _ hname => cases hname <;> cases hf
  | @tokens room inner entries j f hroom _ _ hno =>
    have hlast : notRecord inner = .tooDeep → ∃ n, room = .levels n
        ∧ n ≤ (Json.obj entries).containers := by
      intro hdeep
      rw [notRecord] at hdeep
      split at hdeep
      · cases hdeep
      · rename_i hnone
        have hinner := Room.eq_of_below?_none (Option.not_isSome_iff_eq_none.1 hnone)
        rw [hinner] at hroom
        exact ⟨1, Room.eq_of_below? hroom, Nat.le_add_left 1 _⟩
    cases hno with
    | text | keys => exact hlast hf
    | scalar => cases hf
  | @item room inner entries before after j f hroom _ htokens _ _ ih =>
    obtain ⟨n, hinner, hn⟩ := ih hf
    rw [hinner] at hroom
    have hitem : j.containers ≤ Json.containersOf (before ++ j :: after) :=
      Json.containers_le_of_mem (by simp)
    have hlist := Json.containers_le_of_lookupKey htokens
    rw [Json.containers] at hlist
    refine ⟨n + 1, Room.eq_of_below? hroom, ?_⟩
    rw [Json.containers]
    omega
  | @field room inner entries _ _ _ _ j f hroom _ _ _ _ hlookup _ _ ih =>
    obtain ⟨n, hinner, hn⟩ := ih hf
    rw [hinner] at hroom
    have hfield := Json.containers_le_of_lookupKey hlookup
    refine ⟨n + 1, Room.eq_of_below? hroom, ?_⟩
    rw [Json.containers]
    omega

end Record

end TemplateLexer
