import TemplateLexer.Proofs.KeyedEntries
import TemplateLexer.Proofs.WrittenWords

set_option autoImplicit false

namespace TemplateLexer.Json

mutual

def sorted : Json → Json
  | arr items => arr (sortedItems items)
  | obj entries => obj (sortEntries (sortedEntries entries))
  | j => j

def sortedItems : List Json → List Json
  | [] => []
  | x :: xs => x.sorted :: sortedItems xs

def sortedEntries : List (String × Json) → List (String × Json)
  | [] => []
  | (k, v) :: rest => (k, v.sorted) :: sortedEntries rest

end

/-- Values that their text tells: no number is kept as it was written, and no key comes twice. -/
inductive IsPlain : Json → Prop
  | null : IsPlain null
  | bool (b : Bool) : IsPlain (bool b)
  | int (n : Int) : IsPlain (int n)
  | str (s : String) : IsPlain (str s)
  | arr {items : List Json} (h : ∀ j ∈ items, IsPlain j) : IsPlain (arr items)
  | obj {entries : List (String × Json)} (hkeys : DistinctKeys entries)
      (h : ∀ e ∈ entries, IsPlain e.2) : IsPlain (obj entries)

variable {j k : Json} {items : List Json} {entries : List (String × Json)} {layout : Layout}
  {level : Nat}

section Sorted

@[simp] theorem sortedItems_eq : sortedItems items = items.map sorted := by
  induction items with
  | nil => rfl
  | cons x xs ih => rw [sortedItems, ih, List.map_cons]

@[simp] theorem sortedEntries_eq :
    sortedEntries entries = entries.map fun e => (e.1, e.2.sorted) := by
  induction entries with
  | nil => rfl
  | cons e rest ih => rw [sortedEntries, ih, List.map_cons]

theorem sorted_arr : (arr items).sorted = arr (items.map sorted) := by
  rw [sorted, sortedItems_eq]

theorem sorted_obj :
    (obj entries).sorted = obj ((sortEntries entries).map fun e => (e.1, e.2.sorted)) := by
  rw [sorted, sortedEntries_eq, sortEntries_map]

theorem sorted_obj_eq_iff {xs ys : List (String × Json)} (hxs : DistinctKeys xs)
    (hys : DistinctKeys ys) :
    (obj xs).sorted = (obj ys).sorted
      ↔ ∀ key, (lookupKey key xs).map sorted = (lookupKey key ys).map sorted := by
  rw [sorted, sorted, sortedEntries_eq, sortedEntries_eq, obj.injEq,
    sortEntries_eq_iff ((distinctKeys_map sorted).2 hxs) ((distinctKeys_map sorted).2 hys)]
  simp only [lookupKey_map]

theorem IsPlain.sorted_sorted (h : j.IsPlain) : j.sorted.sorted = j.sorted := by
  induction h with
  | null | bool | int | str => rfl
  | arr _ ih =>
    rw [sorted_arr, sorted_arr, List.map_map]
    exact congrArg Json.arr (List.map_congr_left ih)
  | @obj entries hkeys _ ih =>
    have hsorted : DistinctKeys ((sortEntries entries).map fun e => (e.1, e.2.sorted)) :=
      (distinctKeys_map sorted).2 (distinctKeys_sortEntries.2 hkeys)
    conv_lhs => arg 1; rw [sorted_obj]
    refine (sorted_obj_eq_iff hsorted hkeys).2 fun key => ?_
    rw [lookupKey_map, lookupKey_sortEntries hkeys, Option.map_map]
    cases hlookup : lookupKey key entries with
    | none => rfl
    | some v => exact congrArg some (ih _ (mem_of_lookupKey hlookup))

@[simp] theorem writeItems_eq :
    writeItems layout level items = items.map (writeAt layout level) := by
  induction items with
  | nil => rfl
  | cons x xs ih => rw [writeItems, ih, List.map_cons]

@[simp] theorem writeEntries_eq :
    writeEntries layout level entries = entries.map fun e => (e.1, writeAt layout level e.2) := by
  induction entries with
  | nil => rfl
  | cons e rest ih => rw [writeEntries, ih, List.map_cons]

theorem writeAt_arr :
    writeAt layout level (arr items)
      = bracket layout level '[' ']' (items.map (writeAt layout (level + 1))) := by
  rw [writeAt, writeItems_eq]

def writeEntry (layout : Layout) (level : Nat) (e : String × Json) : List Char :=
  quoteChars e.1 ++ [':', ' '] ++ writeAt layout level e.2

theorem writeAt_obj :
    writeAt layout level (obj entries)
      = bracket layout level '\x7b' '\x7d'
          ((sortEntries entries).map (writeEntry layout (level + 1))) := by
  simp only [writeAt, writeEntries_eq, sortEntries_map, List.map_map]
  rfl

theorem IsPlain.writeAt_sorted (h : j.IsPlain) (layout : Layout) (level : Nat) :
    writeAt layout level j.sorted = writeAt layout level j := by
  induction h generalizing level with
  | null | bool | int | str => rfl
  | arr _ ih =>
    rw [sorted_arr, writeAt_arr, writeAt_arr, List.map_map]
    exact congrArg _ (List.map_congr_left fun x hx => ih x hx _)
  | @obj entries hkeys _ ih =>
    have hagain : sortEntries (sortEntries entries) = sortEntries entries :=
      (sortEntries_eq_iff (distinctKeys_sortEntries.2 hkeys) hkeys).2
        fun _ => lookupKey_sortEntries hkeys
    rw [sorted_obj, writeAt_obj, writeAt_obj, sortEntries_map, hagain, List.map_map]
    refine congrArg _ (List.map_congr_left fun e he => ?_)
    have hvalue := ih e (sortEntries_perm.mem_iff.1 he) (level + 1)
    rw [Function.comp_apply, writeEntry, writeEntry, hvalue]

end Sorted

section Blanks

def Layout.IsBlank (layout : Layout) : Prop :=
  ∀ front ∈ layout, ∀ c ∈ front.toList, Json.isBlank c = true

theorem Layout.isBlank_none : Layout.IsBlank none := fun _ h => nomatch h

theorem Layout.isBlank_blanks (width : Nat) : (Layout.blanks width).IsBlank := by
  intro front hfront c hc
  obtain rfl := Option.mem_some.1 hfront
  rw [String.toList_ofList] at hc
  rw [List.eq_of_mem_replicate hc]
  rfl

variable {cs rest : List Char} {c : Char}

theorem skipBlanks_append (h : ∀ c ∈ cs, isBlank c = true) :
    skipBlanks (cs ++ rest) = skipBlanks rest :=
  List.dropWhile_append_of_pos h

theorem skipBlanks_cons (h : isBlank c = false) : skipBlanks (c :: rest) = c :: rest :=
  List.dropWhile_cons_of_neg (by rw [h]; decide)

theorem isBlank_lineStart (hlayout : layout.IsBlank) (level : Nat) :
    ∀ c ∈ lineStart layout level, isBlank c = true := by
  intro c h
  cases layout with
  | none => cases h
  | some front =>
    rcases List.mem_cons.1 h with rfl | hmem
    · rfl
    · obtain ⟨l, hl, hc⟩ := List.mem_flatten.1 hmem
      rw [List.eq_of_mem_replicate hl] at hc
      exact hlayout front rfl c hc

theorem Ends.append_cons (hcs : ∀ c ∈ cs, isBlank c = true) (h : Ends (c :: rest)) :
    Ends (cs ++ c :: rest) := by
  cases cs with
  | nil => exact h
  | cons b bs =>
    have hblank := hcs b List.mem_cons_self
    simp only [isBlank, Bool.or_eq_true, beq_iff_eq] at hblank
    refine ends_cons ?_ _
    rcases hblank with ((rfl | rfl) | rfl) | rfl <;> decide

end Blanks

section Reading

variable {fuel : Nat} {rest : List Char}

theorem IsPlain.head_writeAt (h : j.IsPlain) (layout : Layout) (level : Nat) :
    ∃ c cs, writeAt layout level j = c :: cs ∧ isBlank c = false ∧ c ≠ ']' := by
  cases h with
  | null => exact ⟨_, _, rfl, rfl, by decide⟩
  | bool b => cases b <;> exact ⟨_, _, rfl, rfl, by decide⟩
  | int n =>
    obtain ⟨c, cs, heq, hc⟩ := head_toString n
    refine ⟨c, cs, heq, ?_⟩
    rcases hc with hdigit | ⟨rfl, -⟩
    · constructor
      · simp only [isBlank, Bool.or_eq_false_iff, beq_eq_false_iff_ne]
        refine ⟨⟨⟨?_, ?_⟩, ?_⟩, ?_⟩ <;> rintro rfl <;> simp at hdigit
      · rintro rfl
        simp at hdigit
    · decide
  | str s => exact ⟨_, _, rfl, rfl, by decide⟩
  | arr =>
    rw [writeAt_arr, bracket]
    split
    · exact ⟨_, _, rfl, rfl, by decide⟩
    · exact ⟨_, _, rfl, rfl, by decide⟩
  | obj =>
    rw [writeAt_obj, bracket]
    split
    · exact ⟨_, _, rfl, rfl, by decide⟩
    · exact ⟨_, _, rfl, rfl, by decide⟩

theorem IsPlain.skipBlanks_writeAt (h : j.IsPlain) (layout : Layout) (level : Nat)
    (rest : List Char) :
    skipBlanks (writeAt layout level j ++ rest) = writeAt layout level j ++ rest := by
  obtain ⟨c, cs, heq, hc, -⟩ := h.head_writeAt layout level
  rw [heq, List.cons_append, skipBlanks_cons hc]

theorem skipBlanks_writeEntry {e : String × Json} :
    skipBlanks (writeEntry layout level e ++ rest) = writeEntry layout level e ++ rest :=
  skipBlanks_cons rfl

def insideBracket (layout : Layout) (level : Nat) (right : Char) (parts : List (List Char))
    (rest : List Char) : List Char :=
  (separator layout ++ lineStart layout (level + 1)).intercalate parts
    ++ (lineStart layout level ++ right :: rest)

variable {left right : Char} {part next : List Char} {parts : List (List Char)}

theorem bracket_append (h : parts ≠ []) :
    bracket layout level left right parts ++ rest
      = left :: (lineStart layout (level + 1) ++ insideBracket layout level right parts rest) := by
  have hsome : parts.isEmpty = false := by simpa using h
  simp [bracket, hsome, insideBracket]

theorem insideBracket_singleton :
    insideBracket layout level right [part] rest
      = part ++ (lineStart layout level ++ right :: rest) := by
  rw [insideBracket, List.intercalate_singleton]

theorem exists_insideBracket_cons (hlayout : layout.IsBlank) (level : Nat) :
    ∃ bs, (∀ c ∈ bs, isBlank c = true) ∧
      ∀ right part next parts rest, insideBracket layout level right (part :: next :: parts) rest
        = part ++ ',' :: (bs ++ insideBracket layout level right (next :: parts) rest) := by
  have hgap : ∃ bs, (∀ c ∈ bs, isBlank c = true) ∧
      separator layout ++ lineStart layout (level + 1) = ',' :: bs := by
    have hline := isBlank_lineStart hlayout (level + 1)
    cases layout with
    | none => exact ⟨[' '], List.forall_mem_singleton.2 rfl, rfl⟩
    | some front => exact ⟨_, hline, rfl⟩
  obtain ⟨bs, hblank, hgap⟩ := hgap
  refine ⟨bs, hblank, fun right part next parts rest => ?_⟩
  rw [insideBracket, insideBracket, List.intercalate_cons_cons, hgap]
  simp only [List.append_assoc, List.cons_append]

theorem below?_free : Limits.free.below? = some .free := rfl

theorem valueFrom_str (s : String) :
    valueFrom (fuel + 1) .free (quoteChars s ++ rest) = .ok (str s, rest) := by
  rw [quoteChars_append]
  simp only [valueFrom, stringFrom_quoted]

theorem valueFrom_int (n : Int) (h : Ends rest) :
    valueFrom (fuel + 1) .free ((toString n).toList ++ rest) = .ok (int n, rest) := by
  have hnumeral : boundNumeral .free ((toString n).toList ++ rest) = .ok (int n, rest) := by
    rw [boundNumeral, numeral_toString n h]
    rfl
  obtain ⟨c, cs, heq, hc⟩ := head_toString n
  rw [heq, List.cons_append] at hnumeral ⊢
  rw [← hnumeral]
  -- no other kind of value starts with a digit, or with a sign and a digit
  rcases hc with hdigit | ⟨rfl, d, ds, rfl, hdigit⟩
  · unfold valueFrom
    split <;> simp_all
  · unfold valueFrom
    split <;> simp_all

/-- A value that is read back wherever it stands, with what follows it left over. The fuel counts
down on the way into a value and on from item to item. -/
def IsReadBack (layout : Layout) (level : Nat) (j : Json) : Prop :=
  ∀ (fuel : Nat) (rest : List Char), Ends rest →
    2 * (writeAt layout level j ++ rest).length ≤ fuel →
    valueFrom fuel .free (writeAt layout level j ++ rest) = .ok (j.sorted, rest)

theorem exists_insideBracket (layout : Layout) (level : Nat) (right : Char) (part : List Char)
    (parts : List (List Char)) (rest : List Char) :
    ∃ more, insideBracket layout level right (part :: parts) rest = part ++ more := by
  cases parts with
  | nil => exact ⟨_, insideBracket_singleton⟩
  | cons next parts =>
    rw [insideBracket, List.intercalate_cons_cons, List.append_assoc, List.append_assoc]
    exact ⟨_, rfl⟩

theorem skipBlanks_insideBracket (h : ∀ more, skipBlanks (part ++ more) = part ++ more) :
    skipBlanks (insideBracket layout level right (part :: parts) rest)
      = insideBracket layout level right (part :: parts) rest := by
  obtain ⟨more, heq⟩ := exists_insideBracket layout level right part parts rest
  rw [heq, h]

theorem skipBlanks_bracket (hlayout : layout.IsBlank) (hparts : parts.head? = some part)
    (h : ∀ more, skipBlanks (part ++ more) = part ++ more) :
    skipBlanks (lineStart layout (level + 1) ++ insideBracket layout level right parts rest)
      = insideBracket layout level right parts rest := by
  obtain ⟨parts, rfl⟩ := List.head?_eq_some_iff.1 hparts
  rw [skipBlanks_append (isBlank_lineStart hlayout _)]
  exact skipBlanks_insideBracket h

theorem head?_insideBracket {c : Char} (hparts : parts.head? = some part)
    (h : part.head? = some c) : (insideBracket layout level right parts rest).head? = some c := by
  obtain ⟨parts, rfl⟩ := List.head?_eq_some_iff.1 hparts
  obtain ⟨cs, rfl⟩ := List.head?_eq_some_iff.1 h
  obtain ⟨more, hinside⟩ := exists_insideBracket layout level right (c :: cs) parts rest
  rw [hinside]
  rfl

theorem itemsFrom_written (hlayout : layout.IsBlank) {x : Json} {xs : List Json}
    (hplain : ∀ y ∈ x :: xs, y.IsPlain) (hread : ∀ y ∈ x :: xs, IsReadBack layout (level + 1) y)
    (done : List Json) (hfuel : 2 * (insideBracket layout level ']'
      ((x :: xs).map (writeAt layout (level + 1))) rest).length < fuel) :
    itemsFrom fuel .free done
        (insideBracket layout level ']' ((x :: xs).map (writeAt layout (level + 1))) rest)
      = .ok (arr (done.reverse ++ (x :: xs).map sorted), rest) := by
  have hx := hread x List.mem_cons_self
  induction xs generalizing fuel x done with
  | nil =>
    obtain ⟨fuel, rfl⟩ := Nat.exists_eq_succ_of_ne_zero (Nat.ne_zero_of_lt hfuel)
    have hline := isBlank_lineStart hlayout level
    have hend : Ends (lineStart layout level ++ ']' :: rest) :=
      Ends.append_cons hline (ends_cons (by decide) rest)
    rw [List.map_singleton, insideBracket_singleton] at hfuel ⊢
    rw [itemsFrom, hx fuel _ hend (by omega)]
    simp only [skipBlanks_append hline, skipBlanks_cons (show isBlank ']' = false from rfl)]
    simp
  | cons y ys ih =>
    obtain ⟨fuel, rfl⟩ := Nat.exists_eq_succ_of_ne_zero (Nat.ne_zero_of_lt hfuel)
    obtain ⟨bs, hblank, hcons⟩ := exists_insideBracket_cons hlayout level
    rw [List.map_cons, List.map_cons, hcons, ← List.map_cons] at hfuel ⊢
    have hend : Ends (',' :: (bs ++ insideBracket layout level ']'
        ((y :: ys).map (writeAt layout (level + 1))) rest)) := ends_cons (by decide) _
    have hy : ∀ more, skipBlanks (writeAt layout (level + 1) y ++ more)
        = writeAt layout (level + 1) y ++ more :=
      (hplain y (by simp)).skipBlanks_writeAt layout (level + 1)
    have htailFuel : 2 * (insideBracket layout level ']'
        ((y :: ys).map (writeAt layout (level + 1))) rest).length < fuel := by
      simp only [List.length_append, List.length_cons] at hfuel ⊢
      omega
    have htail := ih (fun z hz => hplain z (List.mem_cons_of_mem x hz))
      (fun z hz => hread z (List.mem_cons_of_mem x hz)) (x.sorted :: done) htailFuel
      (hread y (by simp))
    rw [itemsFrom, hx fuel _ hend (by omega)]
    simp only [skipBlanks_cons (show isBlank ',' = false from rfl), skipBlanks_append hblank,
      List.map_cons, skipBlanks_insideBracket hy]
    rw [← List.map_cons, htail]
    simp

theorem entriesFrom_writeEntry {e : String × Json} {more : List Char}
    (done : List (String × Json)) (hplain : e.2.IsPlain) (hread : IsReadBack layout level e.2)
    (hmore : Ends more) (hfuel : 2 * (writeEntry layout level e ++ more).length ≤ fuel) :
    (skipBlanks more = ',' :: rest →
        entriesFrom (fuel + 1) .free done (writeEntry layout level e ++ more)
          = entriesFrom fuel .free (putKey e.1 e.2.sorted done) (skipBlanks rest))
      ∧ (skipBlanks more = '\x7d' :: rest →
        entriesFrom (fuel + 1) .free done (writeEntry layout level e ++ more)
          = .ok (obj (putKey e.1 e.2.sorted done), rest)) := by
  have hlength : 2 * (writeAt layout level e.2 ++ more).length ≤ fuel := by
    simp only [writeEntry, List.length_append] at hfuel ⊢
    omega
  have hspace : skipBlanks (' ' :: (writeAt layout level e.2 ++ more))
      = writeAt layout level e.2 ++ more := by
    rw [← List.singleton_append, skipBlanks_append (List.forall_mem_singleton.2 rfl),
      hplain.skipBlanks_writeAt]
  constructor <;>
  · intro hskip
    simp only [writeEntry, List.append_assoc, List.cons_append, List.nil_append, quoteChars_append,
      entriesFrom, stringFrom_quoted, skipBlanks_cons (show isBlank ':' = false from rfl), hspace,
      hread fuel more hmore hlength, hskip]

theorem entriesFrom_written (hlayout : layout.IsBlank) {e : String × Json}
    {es : List (String × Json)} (hplain : ∀ f ∈ e :: es, f.2.IsPlain)
    (hread : ∀ f ∈ e :: es, IsReadBack layout (level + 1) f.2) (done : List (String × Json))
    (hkeys : DistinctKeys (done ++ e :: es)) (hfuel : 2 * (insideBracket layout level '\x7d'
      ((e :: es).map (writeEntry layout (level + 1))) rest).length < fuel) :
    entriesFrom fuel .free done
        (insideBracket layout level '\x7d' ((e :: es).map (writeEntry layout (level + 1))) rest)
      = .ok (obj (done ++ (e :: es).map fun f => (f.1, f.2.sorted)), rest) := by
  have he := hread e List.mem_cons_self
  induction es generalizing fuel e done with
  | nil =>
    obtain ⟨fuel, rfl⟩ := Nat.exists_eq_succ_of_ne_zero (Nat.ne_zero_of_lt hfuel)
    have hline := isBlank_lineStart hlayout level
    have hend : Ends (lineStart layout level ++ '\x7d' :: rest) :=
      Ends.append_cons hline (ends_cons (by decide) rest)
    rw [List.map_singleton, insideBracket_singleton] at hfuel ⊢
    have hskip : skipBlanks (lineStart layout level ++ '\x7d' :: rest) = '\x7d' :: rest := by
      rw [skipBlanks_append hline, skipBlanks_cons rfl]
    rw [(entriesFrom_writeEntry done (hplain e List.mem_cons_self) he hend (by omega)).2 hskip,
      putKey_of_notMem hkeys.notMem_of_append, List.map_singleton]
  | cons f fs ih =>
    obtain ⟨fuel, rfl⟩ := Nat.exists_eq_succ_of_ne_zero (Nat.ne_zero_of_lt hfuel)
    obtain ⟨bs, hblank, hcons⟩ := exists_insideBracket_cons hlayout level
    rw [List.map_cons, List.map_cons, hcons, ← List.map_cons] at hfuel ⊢
    have hend : Ends (',' :: (bs ++ insideBracket layout level '\x7d'
        ((f :: fs).map (writeEntry layout (level + 1))) rest)) := ends_cons (by decide) _
    have hdone : DistinctKeys (done ++ [(e.1, e.2.sorted)] ++ f :: fs) := by
      simpa [DistinctKeys] using hkeys
    have htailFuel : 2 * (insideBracket layout level '\x7d'
        ((f :: fs).map (writeEntry layout (level + 1))) rest).length < fuel := by
      simp only [List.length_append, List.length_cons] at hfuel ⊢
      omega
    have htail := ih (fun g hg => hplain g (List.mem_cons_of_mem e hg))
      (fun g hg => hread g (List.mem_cons_of_mem e hg)) (done ++ [(e.1, e.2.sorted)]) hdone
      htailFuel (hread f (by simp))
    rw [(entriesFrom_writeEntry done (hplain e List.mem_cons_self) he hend (by omega)).1
      (skipBlanks_cons rfl), putKey_of_notMem hkeys.notMem_of_append, skipBlanks_append hblank,
      List.map_cons, skipBlanks_insideBracket fun _ => skipBlanks_writeEntry, ← List.map_cons, htail]
    simp

theorem valueFrom_items {cs : List Char} (h : skipBlanks rest = cs) (hc : cs.head? ≠ some ']') :
    valueFrom (fuel + 1) .free ('[' :: rest) = itemsFrom fuel .free [] cs := by
  simp only [valueFrom, below?_free, h]
  split
  · exact absurd rfl hc
  · rfl

theorem valueFrom_entries {cs : List Char} (h : skipBlanks rest = cs)
    (hc : cs.head? ≠ some '\x7d') :
    valueFrom (fuel + 1) .free ('\x7b' :: rest) = entriesFrom fuel .free [] cs := by
  simp only [valueFrom, below?_free, h]
  split
  · exact absurd rfl hc
  · rfl

theorem IsPlain.isReadBack_of_succ (hj : j.IsPlain)
    (h : ∀ (fuel : Nat) (rest : List Char), Ends rest →
      2 * (writeAt layout level j ++ rest).length ≤ fuel + 1 →
      valueFrom (fuel + 1) .free (writeAt layout level j ++ rest) = .ok (j.sorted, rest)) :
    IsReadBack layout level j := by
  intro fuel rest hrest hfuel
  obtain ⟨c, cs, heq, -⟩ := hj.head_writeAt layout level
  rw [heq] at hfuel
  obtain ⟨fuel, rfl⟩ := Nat.exists_eq_succ_of_ne_zero (n := fuel) (by
    rintro rfl
    simp at hfuel)
  exact h fuel rest hrest (heq ▸ hfuel)

theorem valueFrom_arr (hlayout : layout.IsBlank) {x : Json} {xs : List Json}
    (hplain : ∀ y ∈ x :: xs, y.IsPlain) (hread : ∀ y ∈ x :: xs, IsReadBack layout (level + 1) y)
    (hfuel : 2 * (writeAt layout level (arr (x :: xs)) ++ rest).length ≤ fuel + 1) :
    valueFrom (fuel + 1) .free (writeAt layout level (arr (x :: xs)) ++ rest)
      = .ok ((arr (x :: xs)).sorted, rest) := by
  have hx := hplain x List.mem_cons_self
  have hstart : (insideBracket layout level ']'
      ((x :: xs).map (writeAt layout (level + 1))) rest).head? ≠ some ']' := by
    obtain ⟨c, cs, heq, -, hc⟩ := hx.head_writeAt layout (level + 1)
    have hhead : (writeAt layout (level + 1) x).head? = some c := by
      rw [heq]
      rfl
    rw [head?_insideBracket rfl hhead]
    simpa using hc
  have hskip := fun more => hx.skipBlanks_writeAt layout (level + 1) more
  rw [sorted_arr]
  rw [writeAt_arr, bracket_append (by simp)] at hfuel ⊢
  rw [valueFrom_items (skipBlanks_bracket hlayout rfl hskip) hstart,
    itemsFrom_written hlayout hplain hread []]
  · rfl
  · simp only [List.length_cons, List.length_append] at hfuel ⊢
    omega

theorem valueFrom_obj (hlayout : layout.IsBlank) {e : String × Json} {es : List (String × Json)}
    (hes : sortEntries entries = e :: es) (hkeys : DistinctKeys entries)
    (hplain : ∀ f ∈ entries, f.2.IsPlain) (hread : ∀ f ∈ entries, IsReadBack layout (level + 1) f.2)
    (hfuel : 2 * (writeAt layout level (obj entries) ++ rest).length ≤ fuel + 1) :
    valueFrom (fuel + 1) .free (writeAt layout level (obj entries) ++ rest)
      = .ok ((obj entries).sorted, rest) := by
  have hmem : ∀ f ∈ sortEntries entries, f ∈ entries := fun f => sortEntries_perm.mem_iff.1
  have hsorted := distinctKeys_sortEntries.2 hkeys
  rw [hes] at hmem hsorted
  have hstart : (insideBracket layout level '\x7d'
      ((e :: es).map (writeEntry layout (level + 1))) rest).head? ≠ some '\x7d' := by
    rw [head?_insideBracket rfl rfl]
    decide
  rw [sorted_obj, hes]
  rw [writeAt_obj, hes, bracket_append (by simp)] at hfuel ⊢
  rw [valueFrom_entries (skipBlanks_bracket hlayout rfl fun _ => skipBlanks_writeEntry) hstart,
    entriesFrom_written hlayout (fun f hf => hplain f (hmem f hf))
      (fun f hf => hread f (hmem f hf)) [] hsorted]
  · rfl
  · simp only [List.length_cons, List.length_append] at hfuel ⊢
    omega

theorem IsPlain.isReadBack (hlayout : layout.IsBlank) (h : j.IsPlain) (level : Nat) :
    IsReadBack layout level j := by
  induction h generalizing level with
  | null => exact IsPlain.null.isReadBack_of_succ fun _ _ _ _ => rfl
  | bool b =>
    refine (IsPlain.bool b).isReadBack_of_succ fun _ _ _ _ => ?_
    cases b <;> rfl
  | int n => exact (IsPlain.int n).isReadBack_of_succ fun _ _ hrest _ => valueFrom_int n hrest
  | str s => exact (IsPlain.str s).isReadBack_of_succ fun _ _ _ _ => valueFrom_str s
  | @arr items hitems ih =>
    refine (IsPlain.arr hitems).isReadBack_of_succ fun fuel rest hrest hfuel => ?_
    cases items with
    | nil =>
      rw [sorted_arr, writeAt_arr]
      rfl
    | cons x xs => exact valueFrom_arr hlayout hitems (fun y hy => ih y hy _) hfuel
  | @obj entries hkeys hentries ih =>
    refine (IsPlain.obj hkeys hentries).isReadBack_of_succ fun fuel rest hrest hfuel => ?_
    cases hes : sortEntries entries with
    | nil =>
      rw [sorted_obj, writeAt_obj, hes]
      rfl
    | cons e es => exact valueFrom_obj hlayout hes hkeys hentries (fun f hf => ih f hf _) hfuel

end Reading

theorem IsPlain.readWithin_text (h : j.IsPlain) (hlayout : layout.IsBlank) :
    readWithin .free (j.text layout) = .ok j.sorted := by
  have hends : Ends [] := fun _ h => nomatch h
  have hread := h.isReadBack hlayout 0 (2 * (writeAt layout 0 j).length + 2) [] hends (by simp)
  have hskip := h.skipBlanks_writeAt layout 0 []
  rw [List.append_nil] at hread hskip
  simp only [readWithin, text, String.toList_ofList, hskip, hread]
  rfl

theorem IsPlain.text_eq_iff (hj : j.IsPlain) (hk : k.IsPlain) (hlayout : layout.IsBlank) :
    j.text layout = k.text layout ↔ j.sorted = k.sorted := by
  constructor
  · intro h
    have hread := hj.readWithin_text hlayout
    rw [h, hk.readWithin_text hlayout] at hread
    exact (Except.ok.inj hread).symm
  · intro h
    rw [text, text, ← hj.writeAt_sorted, h, hk.writeAt_sorted]

end TemplateLexer.Json
