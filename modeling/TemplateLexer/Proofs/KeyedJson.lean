import Mathlib.Data.List.TakeDrop
import TemplateLexer.Json.Reader
import TemplateLexer.Proofs.KeyedEntries

set_option autoImplicit false

namespace TemplateLexer

namespace Json

def isScalar : Json → Bool
  | arr _ | obj _ => false
  | _ => true

/-- Values inside which no object has a key twice. -/
inductive IsKeyed : Json → Prop
  | scalar {j : Json} (h : j.isScalar = true) : IsKeyed j
  | arr {items : List Json} (h : ∀ j ∈ items, IsKeyed j) : IsKeyed (arr items)
  | obj {entries : List (String × Json)} (hkeys : DistinctKeys entries)
      (h : ∀ e ∈ entries, IsKeyed e.2) : IsKeyed (obj entries)

variable {j : Json} {key : String} {entries : List (String × Json)} {items : List Json}
  {cs rest : List Char} {text : String}

section Keyed

theorem isKeyed_obj_iff :
    (Json.obj entries).IsKeyed ↔ DistinctKeys entries ∧ ∀ e ∈ entries, e.2.IsKeyed := by
  constructor
  · intro h
    cases h with
    | scalar h => cases h
    | obj hkeys h => exact ⟨hkeys, h⟩
  · exact fun h => .obj h.1 h.2

theorem isKeyed_arr_iff : (Json.arr items).IsKeyed ↔ ∀ j ∈ items, j.IsKeyed := by
  constructor
  · intro h
    cases h with
    | scalar h => cases h
    | arr h => exact h
  · exact .arr

theorem IsKeyed.of_lookupKey (h : (Json.obj entries).IsKeyed)
    (hj : lookupKey key entries = some j) : j.IsKeyed :=
  (isKeyed_obj_iff.1 h).2 _ (mem_of_lookupKey hj)

theorem mem_putKey {e : String × Json} (h : e ∈ putKey key j entries) :
    e = (key, j) ∨ e ∈ entries := by
  induction entries with
  | nil => exact .inl (List.mem_singleton.1 h)
  | cons e' rest ih =>
    rw [putKey] at h
    split at h
    · exact (List.mem_cons.1 h).imp_right (List.mem_cons_of_mem _)
    · rcases List.mem_cons.1 h with rfl | hmem
      · exact .inr List.mem_cons_self
      · exact (ih hmem).imp_right (List.mem_cons_of_mem _)

theorem IsKeyed.putKey (h : (Json.obj entries).IsKeyed) (key : String) (hj : j.IsKeyed) :
    (Json.obj (putKey key j entries)).IsKeyed := by
  obtain ⟨hkeys, hentries⟩ := isKeyed_obj_iff.1 h
  refine .obj (distinctKeys_putKey hkeys) fun e he => ?_
  rcases mem_putKey he with rfl | hmem
  · exact hj
  · exact hentries e hmem

theorem digits_suffix (cs : List Char) : (digits cs).2 <:+ cs := by
  rw [digits, List.span_eq_takeWhile_dropWhile]
  exact List.dropWhile_suffix _

theorem exists_numeralFrom (h : numeral cs = some (j, rest)) :
    ∃ negative whole tail, tail <:+ cs ∧ numeralFrom negative whole tail = (j, rest) := by
  rw [numeral.eq_def] at h
  split at h
  rename_i negative tail hsign
  have htail : tail <:+ cs := by
    split at hsign <;> cases hsign
    · exact List.suffix_cons _ _
    · exact List.suffix_refl _
  split at h
  · exact ⟨_, _, _, (List.suffix_cons _ _).trans htail, Option.some.inj h⟩
  · have hdigits := digits_suffix tail
    split at h
    · cases h
    · rename_i hspan
      rw [hspan] at hdigits
      exact ⟨_, _, _, hdigits.trans htail, Option.some.inj h⟩

theorem isScalar_numeral (h : numeral cs = some (j, rest)) : j.isScalar = true := by
  obtain ⟨negative, whole, tail, -, h⟩ := exists_numeralFrom h
  obtain rfl : (numeralFrom negative whole tail).1 = j := congrArg Prod.fst h
  dsimp only [numeralFrom]
  split <;> rfl

theorem isScalar_boundNumeral {limits : Limits} (h : boundNumeral limits cs = .ok (j, rest)) :
    j.isScalar = true := by
  rw [boundNumeral] at h
  split at h
  · cases h
  · rename_i hnumeral
    split at h
    · cases h
    · cases h
      exact isScalar_numeral hnumeral

/-- With some fuel, values, the rest of arrays and the rest of objects are read keyed, if what was
read before is. -/
structure ReadsKeyed (fuel : Nat) : Prop where
  value : ∀ limits cs j rest, valueFrom fuel limits cs = .ok (j, rest) → j.IsKeyed
  items : ∀ limits done cs j rest, (∀ d ∈ done, d.IsKeyed) →
    itemsFrom fuel limits done cs = .ok (j, rest) → j.IsKeyed
  entries : ∀ limits done cs j rest, (Json.obj done).IsKeyed →
    entriesFrom fuel limits done cs = .ok (j, rest) → j.IsKeyed

section Fuel

variable {fuel : Nat} {limits : Limits} {done : List Json} {before : List (String × Json)}

theorem ReadsKeyed.value_succ (ih : ReadsKeyed fuel)
    (h : valueFrom (fuel + 1) limits cs = .ok (j, rest)) : j.IsKeyed := by
  rw [valueFrom.eq_def] at h
  split at h
  · cases h
  · rename_i heq
    cases heq
    split at h
    case h_1 =>
      split at h
      · cases h
      · cases h
        exact .scalar rfl
    case h_2 =>
      split at h
      · cases h
      · split at h
        · cases h
          exact .arr fun _ h => by cases h
        · exact ih.items _ _ _ _ _ (fun _ h => by cases h) h
    case h_3 =>
      split at h
      · cases h
      · split at h
        · cases h
          exact .obj distinctKeys_nil fun _ h => by cases h
        · exact ih.entries _ _ _ _ _ (.obj distinctKeys_nil fun _ h => by cases h) h
    case h_10 => exact .scalar (isScalar_boundNumeral h)
    all_goals
      cases h
      exact .scalar rfl

theorem exists_of_itemsFrom (h : itemsFrom (fuel + 1) limits done cs = .ok (j, rest)) :
    ∃ v behind, valueFrom fuel limits cs = .ok (v, behind)
      ∧ ((∃ next, skipBlanks behind = ',' :: next
          ∧ itemsFrom fuel limits (v :: done) (skipBlanks next) = .ok (j, rest))
        ∨ skipBlanks behind = ']' :: rest ∧ j = arr (v :: done).reverse) := by
  rw [itemsFrom] at h
  split at h
  · cases h
  · rename_i v behind hv
    refine ⟨v, behind, hv, ?_⟩
    split at h
    · rename_i hskip
      exact .inl ⟨_, hskip, h⟩
    · rename_i hskip
      cases h
      exact .inr ⟨hskip, rfl⟩
    · cases h

theorem exists_of_entriesFrom (h : entriesFrom (fuel + 1) limits before cs = .ok (j, rest)) :
    ∃ named key tail colon v behind, cs = '"' :: named
      ∧ stringFrom (named.length + 1) [] named = some (key, tail)
      ∧ skipBlanks tail = ':' :: colon ∧ valueFrom fuel limits (skipBlanks colon) = .ok (v, behind)
      ∧ ((∃ next, skipBlanks behind = ',' :: next
          ∧ entriesFrom fuel limits (putKey key v before) (skipBlanks next) = .ok (j, rest))
        ∨ skipBlanks behind = '\x7d' :: rest ∧ j = obj (putKey key v before)) := by
  rw [entriesFrom.eq_def] at h
  split at h
  · cases h
  · rename_i heq
    cases heq
    split at h
    · split at h
      · cases h
      · rename_i hkey
        split at h
        · rename_i hcolon
          split at h
          · cases h
          · rename_i hv
            refine ⟨_, _, _, _, _, _, rfl, hkey, hcolon, hv, ?_⟩
            split at h
            · rename_i hskip
              exact .inl ⟨_, hskip, h⟩
            · rename_i hskip
              cases h
              exact .inr ⟨hskip, rfl⟩
            · cases h
        · cases h
    · cases h

theorem ReadsKeyed.items_succ (ih : ReadsKeyed fuel) (hdone : ∀ d ∈ done, d.IsKeyed)
    (h : itemsFrom (fuel + 1) limits done cs = .ok (j, rest)) : j.IsKeyed := by
  obtain ⟨v, behind, hv, h⟩ := exists_of_itemsFrom h
  have hall : ∀ d ∈ v :: done, d.IsKeyed := List.forall_mem_cons.2 ⟨ih.value _ _ _ _ hv, hdone⟩
  rcases h with ⟨next, -, h⟩ | ⟨-, rfl⟩
  · exact ih.items _ _ _ _ _ hall h
  · exact .arr fun d hd => hall d (List.mem_reverse.1 hd)

theorem ReadsKeyed.entries_succ (ih : ReadsKeyed fuel) (hbefore : (Json.obj before).IsKeyed)
    (h : entriesFrom (fuel + 1) limits before cs = .ok (j, rest)) : j.IsKeyed := by
  obtain ⟨_, key, _, _, v, _, -, -, -, hv, h⟩ := exists_of_entriesFrom h
  have hput := hbefore.putKey key (ih.value _ _ _ _ hv)
  rcases h with ⟨next, -, h⟩ | ⟨-, rfl⟩
  · exact ih.entries _ _ _ _ _ hput h
  · exact hput

theorem readsKeyed (fuel : Nat) : ReadsKeyed fuel := by
  induction fuel with
  | zero => exact ⟨fun _ _ _ _ h => (by cases h), fun _ _ _ _ _ _ h => (by cases h),
      fun _ _ _ _ _ _ h => (by cases h)⟩
  | succ fuel ih => exact ⟨fun _ _ _ _ h => ih.value_succ h, fun _ _ _ _ _ hdone h =>
      ih.items_succ hdone h, fun _ _ _ _ _ hdone h => ih.entries_succ hdone h⟩

end Fuel

/-- In an object that is read no key comes twice. -/
theorem isKeyed_readWithin {limits : Limits} (h : readWithin limits text = .ok j) : j.IsKeyed := by
  rw [readWithin] at h
  split at h
  · cases h
  · rename_i v rest hv
    split at h
    · cases h
      exact (readsKeyed _).value _ _ _ _ hv
    · cases h

end Keyed

end Json

end TemplateLexer
