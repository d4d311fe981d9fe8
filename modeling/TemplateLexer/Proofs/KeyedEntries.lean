import Mathlib.Data.List.Sort
import TemplateLexer.Json.Writer

set_option autoImplicit false

namespace TemplateLexer

variable {α β : Type} {key : String} {value : α} {entries xs ys : List (String × α)}

/-- No key comes twice. -/
def DistinctKeys (entries : List (String × α)) : Prop := (entries.map Prod.fst).Nodup

instance (entries : List (String × α)) : Decidable (DistinctKeys entries) :=
  inferInstanceAs (Decidable (entries.map Prod.fst).Nodup)

section Lookup

@[simp] theorem distinctKeys_nil : DistinctKeys ([] : List (String × α)) := List.nodup_nil

theorem distinctKeys_cons {e : String × α} :
    DistinctKeys (e :: entries) ↔ e.1 ∉ entries.map Prod.fst ∧ DistinctKeys entries :=
  List.nodup_cons

theorem DistinctKeys.notMem_of_append {e : String × α} (h : DistinctKeys (xs ++ e :: ys)) :
    e.1 ∉ xs.map Prod.fst := by
  rw [DistinctKeys, List.map_append, List.map_cons] at h
  exact fun hmem => (List.nodup_append.1 h).2.2 _ hmem _ List.mem_cons_self rfl

theorem distinctKeys_perm (h : xs.Perm ys) : DistinctKeys xs ↔ DistinctKeys ys :=
  (h.map Prod.fst).nodup_iff

@[simp] theorem distinctKeys_map (f : α → β) :
    DistinctKeys (entries.map fun e => (e.1, f e.2)) ↔ DistinctKeys entries := by
  rw [DistinctKeys, DistinctKeys, List.map_map]
  rfl

theorem lookupKey_eq_none : lookupKey key entries = none ↔ key ∉ entries.map Prod.fst := by
  induction entries with
  | nil => simp [lookupKey]
  | cons e rest ih =>
    obtain ⟨k, v⟩ := e
    rw [lookupKey, List.map_cons, List.mem_cons, not_or, ← ih]
    by_cases hk : k = key
    · simp [hk]
    · simp [hk, Ne.symm hk]

theorem lookupKey_eq_some (h : DistinctKeys entries) :
    lookupKey key entries = some value ↔ (key, value) ∈ entries := by
  induction entries with
  | nil => simp [lookupKey]
  | cons e rest ih =>
    obtain ⟨k, v⟩ := e
    obtain ⟨hnew, hrest⟩ := distinctKeys_cons.1 h
    by_cases hk : k = key
    · subst hk
      have hother : (k, value) ∉ rest := fun hmem => hnew (List.mem_map.2 ⟨_, hmem, rfl⟩)
      simp [lookupKey, hother, eq_comm]
    · have hne : key ≠ k := fun h => hk h.symm
      simp [lookupKey, hk, hne, ih hrest]

theorem mem_of_lookupKey (h : lookupKey key entries = some value) : (key, value) ∈ entries := by
  induction entries with
  | nil => cases h
  | cons e rest ih =>
    obtain ⟨k, v⟩ := e
    by_cases hk : k = key
    · rw [lookupKey, if_pos hk] at h
      obtain rfl := Option.some.inj h
      exact hk ▸ List.mem_cons_self
    · rw [lookupKey, if_neg hk] at h
      exact List.mem_cons_of_mem _ (ih h)

theorem lookupKey_perm (hxs : DistinctKeys xs) (h : xs.Perm ys) :
    lookupKey key xs = lookupKey key ys := by
  refine Option.ext fun v => ?_
  rw [lookupKey_eq_some hxs, lookupKey_eq_some ((distinctKeys_perm h).1 hxs), h.mem_iff]

theorem perm_of_lookupKey (hxs : DistinctKeys xs) (hys : DistinctKeys ys)
    (h : ∀ key, lookupKey key xs = lookupKey key ys) : xs.Perm ys := by
  refine (List.perm_ext_iff_of_nodup hxs.of_map hys.of_map).2 fun e => ?_
  rw [← lookupKey_eq_some hxs, ← lookupKey_eq_some hys, h]

theorem eq_of_lookupKey (hkeys : xs.map Prod.fst = ys.map Prod.fst) (hxs : DistinctKeys xs)
    (h : ∀ key, lookupKey key xs = lookupKey key ys) : xs = ys := by
  induction xs generalizing ys with
  | nil => exact (List.map_eq_nil_iff.1 hkeys.symm).symm
  | cons x xs ih =>
    obtain ⟨k, v⟩ := x
    cases ys with
    | nil => cases hkeys
    | cons y ys =>
      obtain ⟨k', w⟩ := y
      obtain ⟨rfl, hrest⟩ := List.cons.inj hkeys
      obtain ⟨hnew, hdistinct⟩ := distinctKeys_cons.1 hxs
      have hvalue : v = w := by simpa [lookupKey] using h k
      have htail : xs = ys := by
        refine ih hrest hdistinct fun key => ?_
        by_cases hk : k = key
        · subst hk
          rw [lookupKey_eq_none.2 hnew, lookupKey_eq_none.2 (hrest ▸ hnew)]
        · simpa [lookupKey, hk] using h key
      rw [hvalue, htail]

@[simp] theorem lookupKey_map (f : α → β) :
    lookupKey key (entries.map fun e => (e.1, f e.2)) = (lookupKey key entries).map f := by
  induction entries with
  | nil => rfl
  | cons e rest ih =>
    by_cases hk : e.1 = key <;> simp [lookupKey, hk, ih]

theorem putKey_of_notMem (h : key ∉ entries.map Prod.fst) :
    putKey key value entries = entries ++ [(key, value)] := by
  induction entries with
  | nil => rfl
  | cons e rest ih =>
    rw [List.map_cons, List.mem_cons, not_or] at h
    rw [putKey, if_neg (Ne.symm h.1), ih h.2, List.cons_append]

theorem keys_putKey_of_mem (h : key ∈ entries.map Prod.fst) :
    (putKey key value entries).map Prod.fst = entries.map Prod.fst := by
  induction entries with
  | nil => cases h
  | cons e rest ih =>
    by_cases hk : e.1 = key
    · simp [putKey, hk]
    · have hrest : key ∈ rest.map Prod.fst := by
        rcases List.mem_cons.1 h with heq | hmem
        · exact absurd heq.symm hk
        · exact hmem
      rw [putKey, if_neg hk, List.map_cons, ih hrest, List.map_cons]

theorem distinctKeys_putKey (h : DistinctKeys entries) :
    DistinctKeys (putKey key value entries) := by
  by_cases hmem : key ∈ entries.map Prod.fst
  · rw [DistinctKeys, keys_putKey_of_mem hmem]
    exact h
  · rw [DistinctKeys, putKey_of_notMem hmem, List.map_append]
    refine List.nodup_append.2 ⟨h, List.nodup_singleton _, ?_⟩
    rintro k hk k' hk' rfl
    obtain rfl := List.mem_singleton.1 hk'
    exact hmem hk

end Lookup

namespace Json

theorem insertBy_eq (less : α → α → Bool) (x : α) (l : List α) :
    insertBy less x l = l.orderedInsert (fun x y => ¬ less y x) x := by
  induction l with
  | nil => rfl
  | cons y l ih =>
    rw [insertBy, List.orderedInsert_cons, ih]
    cases less y x <;> simp

theorem sortBy_eq (less : α → α → Bool) (l : List α) :
    sortBy less l = l.insertionSort fun x y => ¬ less y x := by
  induction l with
  | nil => rfl
  | cons x l ih =>
    rw [sortBy, List.foldr_cons, ← sortBy, ih, insertBy_eq, List.insertionSort_cons]

theorem sortBy_perm (less : α → α → Bool) (l : List α) : (sortBy less l).Perm l := by
  rw [sortBy_eq]
  exact List.perm_insertionSort _ _

theorem sortEntries_perm : (sortEntries entries).Perm entries := sortBy_perm _ entries

theorem sortEntries_map (f : α → β) :
    sortEntries (entries.map fun e => (e.1, f e.2))
      = (sortEntries entries).map fun e => (e.1, f e.2) := by
  rw [sortEntries, sortEntries, sortBy_eq, sortBy_eq]
  symm
  apply List.map_insertionSort
  exact fun _ _ _ _ => Iff.rfl

@[simp] theorem distinctKeys_sortEntries :
    DistinctKeys (sortEntries entries) ↔ DistinctKeys entries :=
  distinctKeys_perm sortEntries_perm

theorem lookupKey_sortEntries (h : DistinctKeys entries) :
    lookupKey key (sortEntries entries) = lookupKey key entries :=
  (lookupKey_perm h sortEntries_perm.symm).symm

theorem pairwise_sortBy (key : α → String) (l : List α) :
    (sortBy (fun x y => decide (key x < key y)) l).Pairwise fun x y => key x ≤ key y := by
  have hle : ∀ x y : α, ¬ decide (key y < key x) = true ↔ key x ≤ key y := fun x y => by
    rw [decide_eq_true_eq, String.not_lt]
  have htotal : Std.Total fun x y : α => ¬ decide (key y < key x) = true :=
    ⟨fun x y => by simpa only [hle] using String.le_total (key x) (key y)⟩
  have htrans : IsTrans α fun x y => ¬ decide (key y < key x) = true :=
    ⟨fun x y z hxy hyz => (hle x z).2 (String.le_trans ((hle x y).1 hxy) ((hle y z).1 hyz))⟩
  rw [sortBy_eq]
  exact (List.pairwise_insertionSort _ _).imp fun {x y} => (hle x y).1

theorem pairwise_sortEntries (h : DistinctKeys entries) :
    (sortEntries entries).Pairwise fun e f => e.1 < f.1 := by
  have hkeys := List.pairwise_map.1 (List.nodup_iff_pairwise_ne.1 (distinctKeys_sortEntries.2 h))
  refine ((pairwise_sortBy Prod.fst entries).and hkeys).imp fun {e f} ⟨hle, hne⟩ => ?_
  by_contra hlt
  exact hne (String.le_antisymm hle (String.not_lt.1 hlt))

theorem sortEntries_eq_iff (hxs : DistinctKeys xs) (hys : DistinctKeys ys) :
    sortEntries xs = sortEntries ys ↔ ∀ key, lookupKey key xs = lookupKey key ys := by
  constructor
  · intro h key
    rw [← lookupKey_sortEntries hxs, h, lookupKey_sortEntries hys]
  · intro h
    have hperm : (sortEntries xs).Perm (sortEntries ys) :=
      sortEntries_perm.trans ((perm_of_lookupKey hxs hys h).trans sortEntries_perm.symm)
    exact hperm.eq_of_pairwise (fun _ _ _ _ hef hfe => absurd hfe (String.lt_asymm hef))
      (pairwise_sortEntries hxs) (pairwise_sortEntries hys)

end Json

end TemplateLexer
