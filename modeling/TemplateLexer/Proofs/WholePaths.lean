import TemplateLexer.Proofs.ReadNames

set_option autoImplicit false

namespace TemplateLexer

open Markup

namespace Markup

/-- The name that a step shows. -/
def Name.shown (n : Name) : String :=
  if n.uri.isSome && n.qualifier.isNone then "*" else n.written

def ordinalBetween (before after : List Node) (n : Name) : String :=
  if countLike n before = 0 ∧ countLike n after = 0 then ""
  else "[" ++ toString (countLike n before + 1) ++ "]"

def wholeStep (before after : List Node) (n : Name) : String :=
  "/" ++ n.shown ++ ordinalBetween before after n

namespace Element

def wholeSteps (e : Element) : Address → Option (List String)
  | [] => some []
  | i :: rest =>
    match around i e.children with
    | some (before, .element tag children, run, after) =>
      (wholeSteps ⟨tag, children⟩ rest).map (wholeStep before (run ++ after) tag.name :: ·)
    | _ => none

/-- The path of the element at an address, with nothing cut off. -/
def wholePath? (root : Element) (a : Address) : Option String :=
  (root.wholeSteps a).map fun steps => String.join (wholeStep [] [] root.tag.name :: steps)

/-- A document in which no path is cut. -/
def KeepsPaths (root : Element) : Prop :=
  ∀ q ∈ root.places, root.path? q.address = root.wholePath? q.address

instance : DecidablePred KeepsPaths := fun root =>
  inferInstanceAs (Decidable (∀ q ∈ root.places, root.path? q.address = root.wholePath? q.address))

end Element

section Splits

variable {α : Type} {c : α} {xs xs' ys ys' : List α}

theorem append_inj_at (hx : c ∉ xs) (hx' : c ∉ xs') (hy : ∀ d ∈ ys.head?, d = c)
    (hy' : ∀ d ∈ ys'.head?, d = c) (h : xs ++ ys = xs' ++ ys') : xs = xs' ∧ ys = ys' := by
  rcases List.append_eq_append_iff.1 h with ⟨zs, rfl, rfl⟩ | ⟨zs, rfl, rfl⟩
  · cases zs with
    | nil => simp
    | cons z zs => exact absurd (hy z rfl ▸ by simp) hx'
  · cases zs with
    | nil => simp
    | cons z zs => exact absurd (hy' z rfl ▸ by simp) hx

theorem qualified_inj {q q' base base' : String} (hb : ':' ∉ base.toList)
    (hb' : ':' ∉ base'.toList) (h : q ++ ":" ++ base = q' ++ ":" ++ base') :
    q = q' ∧ base = base' := by
  have hchars : base.toList.reverse ++ ':' :: q.toList.reverse
      = base'.toList.reverse ++ ':' :: q'.toList.reverse := by
    simpa using congrArg (fun s => s.toList.reverse) h
  obtain ⟨hbase, hq⟩ := append_inj_at (by simpa using hb) (by simpa using hb') (by simp)
    (by simp) hchars
  exact ⟨String.toList_inj.1 (by simpa using hq), String.toList_inj.1 (by simpa using hbase)⟩

theorem qualified_ne {q base base' : String} (hb' : ':' ∉ base'.toList) :
    q ++ ":" ++ base ≠ base' := by
  rintro rfl
  simp at hb'

end Splits

section Names

variable {n m : Name} {c : Char}

/-- What a path needs to know of the name of an element. -/
structure Name.IsShowable (n : Name) : Prop where
  chars : ∀ c ∈ n.written.toList, inName c = true
  unqualified : n.uri = none → n.qualifier = none
  base : ':' ∉ n.base.toList

theorem Name.IsShowable.mem_shown (h : n.IsShowable) (hc : c ∈ n.shown.toList) :
    inName c = true ∨ c = '*' := by
  rw [Name.shown] at hc
  split at hc
  · exact .inr (by simpa using hc)
  · exact .inl (h.chars c hc)

theorem Name.countsAs_self (n : Name) : n.countsAs n = true := by
  rw [Name.countsAs]
  split <;> simp

theorem Name.IsShowable.countsAs_congr (hn : n.IsShowable) (hm : m.IsShowable)
    (h : n.shown = m.shown) : n.countsAs = m.countsAs := by
  have hstar : ∀ {k : Name}, k.IsShowable → k.written ≠ "*" := by
    intro k hk hwritten
    exact absurd (hk.chars '*' (by simp [hwritten])) (by decide)
  rw [Name.shown, Name.shown] at h
  funext x
  rw [Name.countsAs, Name.countsAs]
  split at h
  · split at h
    · simp_all
    · exact absurd h.symm (hstar hm)
  · split at h
    · exact absurd h (hstar hn)
    · rename_i hnstar hmstar
      rw [if_neg hnstar, if_neg hmstar]
      -- Both have a qualifier, or neither has one.
      obtain ⟨nq, nu, nb⟩ := n
      obtain ⟨mq, mu, mb⟩ := m
      have hnq := hn.unqualified
      have hmq := hm.unqualified
      simp only [Name.written] at h
      cases nq with
      | none =>
        cases mq with
        | none => simp_all
        | some q => exact absurd h.symm (qualified_ne hn.base)
      | some q =>
        cases mq with
        | none => exact absurd h (qualified_ne hm.base)
        | some q' =>
          obtain ⟨rfl, rfl⟩ := qualified_inj hn.base hm.base h
          cases nu <;> cases mu <;> simp_all

end Names

section Steps

variable {n m : Name} {nodes before before' after after' mid : List Node} {c : Char}

theorem inName_of_isDigit (h : c.isDigit = true) : inName c = true := by
  obtain ⟨hlow, hhigh⟩ : 48 ≤ c.toNat ∧ c.toNat ≤ 57 := by
    simpa [Char.isDigit, UInt32.le_iff_toNat_le] using h
  have hdigit : inAny nameMoreRanges c.toNat = true := by
    simp [inAny, nameMoreRanges, hlow, hhigh]
  rw [inName, inPart, hdigit, Bool.or_true, Bool.or_true]

theorem mem_ordinalBetween (hc : c ∈ (ordinalBetween before after n).toList) :
    inName c = true ∨ c ∈ ['[', ']'] := by
  rw [ordinalBetween] at hc
  split at hc
  · simp at hc
  · have hparts : c = '[' ∨ c ∈ Nat.toDigits 10 (countLike n before + 1) ∨ c = ']' := by
      simpa [Nat.toList_repr] using hc
    rcases hparts with rfl | hdigit | rfl
    · exact .inr (by simp)
    · exact .inl (inName_of_isDigit
        (Nat.isDigit_of_mem_toDigits (by decide) (by decide) hdigit))
    · exact .inr (by simp)

theorem head?_ordinalBetween : ∀ d ∈ (ordinalBetween before after n).toList.head?, d = '[' := by
  rw [ordinalBetween]
  split <;> simp

theorem countLike_cons_element (h : n.countsAs m = true) {tag : Tag} {children : List Node}
    (htag : tag.name = m) : countLike n (.element tag children :: mid) = countLike n mid + 1 := by
  simp [countLike, htag, h]

/-- Of two elements beside one another that are shown by one name the later one has the greater
number. -/
theorem wholeStep_ne (hn : n.IsShowable) (hm : m.IsShowable) {tag tag' : Tag}
    {children children' : List Node} (htag : tag.name = n) (htag' : tag'.name = m) :
    wholeStep before (mid ++ .element tag' children' :: after) n
      ≠ wholeStep (before ++ .element tag children :: mid) after m := by
  intro h
  have hchars : ('/' :: n.shown.toList)
        ++ (ordinalBetween before (mid ++ .element tag' children' :: after) n).toList
      = ('/' :: m.shown.toList)
        ++ (ordinalBetween (before ++ .element tag children :: mid) after m).toList := by
    simpa [wholeStep] using congrArg String.toList h
  -- The name ends where the ordinal begins, so that names and ordinals are equal.
  have hopen : ∀ {k : Name}, k.IsShowable → '[' ∉ '/' :: k.shown.toList := by
    intro k hk hmem
    rcases List.mem_cons.1 hmem with hslash | hshown
    · cases hslash
    · exact absurd (hk.mem_shown hshown) (by decide)
  obtain ⟨hshown, hordinal⟩ := append_inj_at (hopen hn) (hopen hm) head?_ordinalBetween
    head?_ordinalBetween hchars
  have hsame : n.countsAs = m.countsAs :=
    hn.countsAs_congr hm (String.toList_inj.1 (List.cons.inj hshown).2)
  have hnm : n.countsAs m = true := hsame ▸ m.countsAs_self
  have hmn : m.countsAs n = true := hsame ▸ n.countsAs_self
  have hlike : countLike n = countLike m := by
    funext nodes
    rw [countLike, countLike, hsame]
  have hafter : countLike n (mid ++ .element tag' children' :: after)
      = countLike n mid + (countLike n after + 1) := by
    rw [countLike, List.countP_append, ← countLike, ← countLike,
      countLike_cons_element hnm htag']
  have hbefore : countLike m (before ++ .element tag children :: mid)
      = countLike n before + (countLike n mid + 1) := by
    rw [countLike, List.countP_append, ← countLike, ← countLike,
      countLike_cons_element hmn htag, hlike]
  rw [String.toList_inj, ordinalBetween, ordinalBetween, hafter, hbefore, if_neg (by omega),
    if_neg (by omega)] at hordinal
  have hdigits : Nat.toDigits 10 (countLike n before + 1)
      = Nat.toDigits 10 (countLike n before + (countLike n mid + 1) + 1) := by
    simpa using congrArg String.toList hordinal
  have hnumbers := congrArg (fun digits => Nat.ofDigitChars 10 digits 0) hdigits
  simp only [Nat.ofDigitChars_ten_toDigits] at hnumbers
  omega

theorem eq_of_wholeStep_eq {tag tag' : Tag} {children children' : List Node}
    (hname : tag.name.IsShowable) (hname' : tag'.name.IsShowable)
    (hnodes : before ++ .element tag children :: after
      = before' ++ .element tag' children' :: after')
    (h : wholeStep before after tag.name = wholeStep before' after' tag'.name) :
    before = before' := by
  rcases List.append_eq_append_iff.1 hnodes with ⟨mid, rfl, hrest⟩ | ⟨mid, rfl, hrest⟩
  · cases mid with
    | nil => simp
    | cons x mid =>
      obtain ⟨rfl, rfl⟩ := List.cons.inj hrest
      exact absurd h (wholeStep_ne hname hname' rfl rfl)
  · cases mid with
    | nil => simp
    | cons x mid =>
      obtain ⟨rfl, rfl⟩ := List.cons.inj hrest
      exact absurd h.symm (wholeStep_ne hname' hname rfl rfl)

def IsStep (s : String) : Prop :=
  ∃ cs, s.toList = '/' :: cs ∧ ∀ c ∈ cs, inName c = true ∨ c ∈ ['*', '[', ']']

theorem isStep_wholeStep (hn : n.IsShowable) (before after : List Node) :
    IsStep (wholeStep before after n) := by
  refine ⟨n.shown.toList ++ (ordinalBetween before after n).toList, by simp [wholeStep], ?_⟩
  intro c hc
  rcases List.mem_append.1 hc with hc | hc
  · rcases hn.mem_shown hc with h | rfl
    · exact .inl h
    · exact .inr (by simp)
  · exact (mem_ordinalBetween hc).imp_right (List.mem_cons_of_mem _)

theorem IsStep.not_mem {s : String} (h : IsStep s) : '@' ∉ s.toList := by
  obtain ⟨cs, hs, hcs⟩ := h
  rw [hs, List.mem_cons, not_or]
  exact ⟨by decide, fun hmem => absurd (hcs _ hmem) (by decide)⟩

theorem join_steps_inj {xs ys : List String} (hx : ∀ s ∈ xs, IsStep s) (hy : ∀ s ∈ ys, IsStep s)
    (h : String.join xs = String.join ys) : xs = ys := by
  have hhead : ∀ {zs : List String}, (∀ s ∈ zs, IsStep s) →
      ∀ d ∈ (zs.flatMap String.toList).head?, d = '/' := by
    intro zs hz d hd
    cases zs with
    | nil => cases hd
    | cons z zs =>
      obtain ⟨cs, hcs, -⟩ := hz z (List.mem_cons_self ..)
      rw [List.flatMap_cons, hcs] at hd
      exact (Option.some.inj hd).symm
  have hslash : ∀ {cs : List Char}, (∀ c ∈ cs, inName c = true ∨ c ∈ ['*', '[', ']']) →
      '/' ∉ cs := fun hcs hmem => absurd (hcs _ hmem) (by decide)
  replace h : xs.flatMap String.toList = ys.flatMap String.toList := by
    simpa using congrArg String.toList h
  induction xs generalizing ys with
  | nil =>
    cases ys with
    | nil => rfl
    | cons y ys =>
      obtain ⟨cs, hcs, -⟩ := hy y (List.mem_cons_self ..)
      rw [List.flatMap_cons, hcs] at h
      cases h
  | cons x xs ih =>
    obtain ⟨⟨cs, hcs, hin⟩, hxs⟩ := List.forall_mem_cons.1 hx
    cases ys with
    | nil =>
      rw [List.flatMap_cons, hcs] at h
      cases h
    | cons y ys =>
      obtain ⟨⟨cs', hcs', hin'⟩, hys⟩ := List.forall_mem_cons.1 hy
      rw [List.flatMap_cons, List.flatMap_cons, hcs, hcs', List.cons_append, List.cons_append,
        List.cons.injEq] at h
      obtain ⟨hstep, hrest⟩ := append_inj_at (hslash hin) (hslash hin') (hhead hxs) (hhead hys) h.2
      rw [ih hxs hys hrest, String.toList_inj.1 (hcs.trans (hstep ▸ hcs'.symm))]

end Steps

section Ways

variable {e root : Element} {x : Element} {above ab : List Tag} {a b : Address} {i : Nat}
  {nodes before run after : List Node} {n : Node} {steps : List String} {q r : Place}

theorem around_eq (h : around i nodes = some (before, n, run, after)) :
    nodes = before ++ n :: (run ++ after) ∧ (items before).length = i
      ∧ n.isCharacters = false := by
  induction nodes generalizing i before with
  | nil => cases h
  | cons m rest ih =>
    cases hm : m.isCharacters with
    | true =>
      simp only [around, hm, if_true] at h
      obtain ⟨⟨b, y, r, s⟩, hrest, heq⟩ := Option.map_eq_some_iff.1 h
      cases heq
      obtain ⟨rfl, hlength, hn⟩ := ih hrest
      exact ⟨rfl, by rw [items_cons, hm, if_pos rfl, hlength], hn⟩
    | false =>
      simp only [around, hm, Bool.false_eq_true, if_false] at h
      cases i with
      | zero =>
        cases h
        exact ⟨by rw [List.takeWhile_append_dropWhile]; rfl, rfl, hm⟩
      | succ i =>
        obtain ⟨⟨b, y, r, s⟩, hrest, heq⟩ := Option.map_eq_some_iff.1 h
        cases heq
        obtain ⟨rfl, hlength, hn⟩ := ih hrest
        refine ⟨rfl, ?_, hn⟩
        rw [items_cons, hm, if_neg Bool.false_ne_true, List.length_cons, hlength]

theorem exists_around (h : (items nodes)[i]? = some n) :
    ∃ before run after, around i nodes = some (before, n, run, after) := by
  induction nodes generalizing i with
  | nil => cases h
  | cons m rest ih =>
    rw [items_cons] at h
    split at h
    · rename_i hm
      obtain ⟨before, run, after, hrest⟩ := ih h
      exact ⟨m :: before, run, after, by simp [around, hm, hrest]⟩
    · rename_i hm
      cases i with
      | zero =>
        cases h
        exact ⟨_, _, _, by simp only [around, hm]; rfl⟩
      | succ i =>
        obtain ⟨before, run, after, hrest⟩ := ih h
        exact ⟨m :: before, run, after, by simp [around, hm, hrest]⟩

theorem exists_wholeSteps (h : e.locate above a = some (ab, x)) :
    ∃ steps, e.wholeSteps a = some steps := by
  induction a generalizing e above with
  | nil => exact ⟨[], rfl⟩
  | cons i a ih =>
    rw [Element.locate] at h
    split at h
    · rename_i tag children hi
      obtain ⟨before, run, after, haround⟩ := exists_around hi
      obtain ⟨steps, hsteps⟩ := ih h
      exact ⟨_, by rw [Element.wholeSteps, haround]; simp only [hsteps]; rfl⟩
    · cases h

theorem getElem?_items (before after : List Node) (h : n.isCharacters = false) :
    (items (before ++ n :: after))[(items before).length]? = some n := by
  simp [items, h]

theorem exists_of_wholeSteps_cons (h : e.wholeSteps (i :: a) = some steps) :
    ∃ before tag children after inner, e.children = before ++ .element tag children :: after
      ∧ (items before).length = i ∧ (items e.children)[i]? = some (.element tag children)
      ∧ Element.wholeSteps ⟨tag, children⟩ a = some inner
      ∧ steps = wholeStep before after tag.name :: inner := by
  rw [Element.wholeSteps] at h
  split at h
  · rename_i before tag children run after haround
    obtain ⟨hnodes, rfl, hn⟩ := around_eq haround
    obtain ⟨inner, hinner, rfl⟩ := Option.map_eq_some_iff.1 h
    exact ⟨before, tag, children, run ++ after, inner, hnodes, rfl,
      hnodes ▸ getElem?_items before (run ++ after) hn, hinner, rfl⟩
  · cases h

theorem locate_cons {tag : Tag} {children : List Node}
    (h : (items e.children)[i]? = some (.element tag children)) (a : Address) :
    e.locate above (i :: a) = Element.locate (e.tag :: above) ⟨tag, children⟩ a := by
  rw [Element.locate, h]

theorem address_eq_of_wholeSteps
    (hnames : ∀ b ab x, e.locate above b = some (ab, x) → x.tag.name.IsShowable)
    (ha : e.wholeSteps a = some steps) (hb : e.wholeSteps b = some steps) : a = b := by
  induction a generalizing e above b steps with
  | nil =>
    cases b with
    | nil => rfl
    | cons j b =>
      obtain ⟨before, tag, children, after, inner, -, -, -, -, rfl⟩ := exists_of_wholeSteps_cons hb
      cases ha
  | cons i a ih =>
    obtain ⟨before, tag, children, after, inner, hnodes, rfl, hitem, hinner, rfl⟩ :=
      exists_of_wholeSteps_cons ha
    cases b with
    | nil => cases hb
    | cons j b =>
      obtain ⟨before', tag', children', after', inner', hnodes', rfl, hitem', hinner', hsteps⟩ :=
        exists_of_wholeSteps_cons hb
      obtain ⟨hstep, rfl⟩ := List.cons.inj hsteps
      have hname := hnames [_] _ ⟨tag, children⟩ (locate_cons hitem [])
      have hname' := hnames [_] _ ⟨tag', children'⟩ (locate_cons hitem' [])
      obtain rfl := eq_of_wholeStep_eq hname hname' (hnodes.symm.trans hnodes') hstep
      rw [hitem] at hitem'
      cases hitem'
      rw [ih (fun b ab x h => hnames (_ :: b) ab x ((locate_cons hitem b).trans h)) hinner hinner']

theorem isStep_of_mem_wholeSteps
    (hnames : ∀ b ab x, e.locate above b = some (ab, x) → x.tag.name.IsShowable)
    (h : e.wholeSteps a = some steps) : ∀ s ∈ steps, IsStep s := by
  induction a generalizing e above steps with
  | nil =>
    cases h
    simp
  | cons i a ih =>
    obtain ⟨before, tag, children, after, inner, -, -, hitem, hinner, rfl⟩ :=
      exists_of_wholeSteps_cons h
    refine List.forall_mem_cons.2 ⟨?_, ?_⟩
    · exact isStep_wholeStep (hnames [i] _ ⟨tag, children⟩ (locate_cons hitem [])) before after
    · exact ih (fun b ab x hx => hnames (i :: b) ab x ((locate_cons hitem b).trans hx)) hinner

theorem exists_wholePath? (hnames : ∀ q ∈ root.places, q.tag.name.IsShowable)
    (hq : q ∈ root.places) : ∃ steps, root.wholeSteps q.address = some steps
      ∧ (∀ s ∈ wholeStep [] [] root.tag.name :: steps, IsStep s)
      ∧ root.wholePath? q.address
        = some (String.join (wholeStep [] [] root.tag.name :: steps)) := by
  obtain ⟨steps, hsteps⟩ := exists_wholeSteps (mem_places_iff.1 hq)
  have hroot := isStep_wholeStep (hnames _ (root_mem_places root)) [] []
  have hall := isStep_of_mem_wholeSteps (fun b ab x h => hnames ⟨b, ab, x⟩ (mem_places_iff.2 h))
    hsteps
  exact ⟨steps, hsteps, List.forall_mem_cons.2 ⟨hroot, hall⟩,
    by rw [Element.wholePath?, hsteps]; rfl⟩

theorem eq_of_wholePath? (hnames : ∀ q ∈ root.places, q.tag.name.IsShowable)
    (hq : q ∈ root.places) (hr : r ∈ root.places)
    (h : root.wholePath? q.address = root.wholePath? r.address) : q = r := by
  obtain ⟨steps, hsteps, hall, hpath⟩ := exists_wholePath? hnames hq
  obtain ⟨steps', hsteps', hall', hpath'⟩ := exists_wholePath? hnames hr
  rw [hpath, hpath', Option.some.injEq] at h
  obtain ⟨-, rfl⟩ := List.cons.inj (join_steps_inj hall hall' h)
  exact eq_of_mem_places hq hr (address_eq_of_wholeSteps
    (fun b ab x hx => hnames ⟨b, ab, x⟩ (mem_places_iff.2 hx)) hsteps hsteps')

end Ways

end Markup

end TemplateLexer
