import TemplateLexer.Proofs.StandIns

set_option autoImplicit false

namespace TemplateLexer

open Markup

namespace Content

/-- Text between other items; there is none without characters. -/
def textItems (s : List Char) : List Item := if s.isEmpty then [] else [.text (String.ofList s)]

/-- The items of nodes. Text is joined with the text before it; `index` counts the children before
the nodes. -/
def itemsOf : (index : Nat) → (front : List Char) → List Node → List Item
  | _, front, [] => textItems front
  | index, front, .text s :: rest => itemsOf index (front ++ s.toList) rest
  | index, front, .cdata s :: rest =>
    textItems front ++ .cdata (String.ofList (printCdata s)) :: itemsOf index [] rest
  | index, front, n :: rest =>
    textItems front ++ .child (standInNumber index n) :: itemsOf (index + 1) [] rest

/-- A section that spells no stand-in. -/
def isClear : Node → Bool
  | .cdata s => !holdsStandIn s.toList
  | _ => true

variable {n : Node} {cs rest : List Char} {nodes run : List Node}

theorem itemsOf_child (hn : n.isCharacters = false) (index : Nat) (front : List Char) :
    itemsOf index front (n :: nodes) = textItems front
      ++ .child (standInNumber index n) :: itemsOf (index + 1) [] nodes := by
  cases n with
  | text _ | cdata _ => cases hn
  | element _ _ | comment _ | instruction _ _ | reference _ => rw [itemsOf] <;> simp

theorem itemsOf_append_child (hrun : ∀ m ∈ run, m.isCharacters = true)
    (hn : n.isCharacters = false) (index : Nat) (front : List Char) :
    itemsOf index front (run ++ n :: nodes) = itemsOf index front run
      ++ .child (standInNumber index n) :: itemsOf (index + 1) [] nodes := by
  induction run generalizing front with
  | nil => rw [List.nil_append, itemsOf_child hn, itemsOf]
  | cons m run ih =>
    obtain ⟨hm, hrest⟩ := List.forall_mem_cons.1 hrun
    cases m with
    | text s => rw [List.cons_append, itemsOf, itemsOf, ih hrest]
    | cdata s =>
      rw [List.cons_append, itemsOf, itemsOf, ih hrest, List.append_assoc, List.cons_append]
    | element _ _ | comment _ | instruction _ _ | reference _ => cases hm

theorem toList_runText (run : List Node) :
    (runText run).toList = run.flatMap fun n => n.characters.toList := by
  rw [runText, String.toList_join, List.flatMap_map]

section Sections

theorem sectionStop_eq : sectionStop = [']', ']', '>'] := String.toList_ofList

theorem sectionEnd?_append (h : sectionEnd? cs = none) :
    sectionEnd? (cs ++ (sectionStop ++ rest)) = some (cs ++ sectionStop, rest) := by
  induction cs with
  | nil =>
    have hprefix : sectionStop.isPrefixOf (']' :: ']' :: '>' :: rest) = true := by
      rw [sectionStop_eq]
      rfl
    have hlist : [] ++ (sectionStop ++ rest) = ']' :: ']' :: '>' :: rest := by
      rw [sectionStop_eq]
      rfl
    rw [hlist, sectionEnd?, if_pos hprefix, sectionStop_eq]
    rfl
  | cons c cs ih =>
    rw [sectionEnd?] at h
    split at h
    · cases h
    · rename_i hfront
      rw [Option.map_eq_none_iff] at h
      have hother : ¬sectionStop.isPrefixOf (c :: (cs ++ (sectionStop ++ rest))) = true := by
        rw [List.isPrefixOf_iff_prefix, sectionStop_eq] at hfront ⊢
        -- The mark would overlap itself, unless all of it stands before it.
        match cs with
        | [] => simp [List.cons_prefix_cons]
        | [d] => simp [List.cons_prefix_cons]
        | d :: e :: more => simpa [List.cons_prefix_cons] using hfront
      rw [List.cons_append, sectionEnd?, if_neg hother, ih h]
      rfl

theorem section?_cons_eq_none {c : Char} (hc : c ≠ '<') : section? (c :: cs) = none := by
  rw [section?, sectionStart_eq]
  simp [List.isPrefixOf, hc.symm]

theorem section?_printCdata {s : String} (h : sectionEnd? s.toList = none) :
    Content.section? (printCdata s ++ rest) = some (printCdata s, rest) := by
  have hprefix : sectionStart.isPrefixOf (sectionStart ++ (s.toList ++ (sectionStop ++ rest))) :=
    List.isPrefixOf_iff_prefix.2 (List.prefix_append ..)
  rw [printCdata_eq, List.append_assoc, List.append_assoc, section?, if_pos hprefix,
    List.drop_left, sectionEnd?_append h]
  rfl

theorem lt_notMem_escapeText (front : List Char) : '<' ∉ front.flatMap escapeTextChar := by
  rw [List.mem_flatMap]
  rintro ⟨c, -, hc⟩
  rw [escapeTextChar.eq_def] at hc
  split at hc <;> revert hc <;> simp_all [eq_comm]

theorem plainItem_reverse (front : List Char) :
    plainItem (front.flatMap escapeTextChar).reverse = textItems front := by
  have hempty : (front.flatMap escapeTextChar).isEmpty = front.isEmpty := by
    cases front with
    | nil => rfl
    | cons c front =>
      have hlen := length_le_escapeTextChar c
      cases hc : escapeTextChar c with
      | nil => simp [hc] at hlen
      | cons _ _ => simp [hc]
  have hstart : ¬sectionStart.isPrefixOf (front.flatMap escapeTextChar) = true := by
    rw [List.isPrefixOf_iff_prefix]
    intro hpre
    exact lt_notMem_escapeText front (hpre.subset (by simp [sectionStart_eq]))
  rw [plainItem, List.reverse_reverse, hempty, textItems, if_neg hstart, unescape_escapeText]

theorem chunks_plain {xs : List Char} (hxs : '<' ∉ xs) (fuel : Nat) (done : List Char) :
    chunks (fuel + xs.length) done (xs ++ rest) = chunks fuel (xs.reverse ++ done) rest := by
  induction xs generalizing done with
  | nil => rfl
  | cons c xs ih =>
    rw [List.mem_cons, not_or] at hxs
    have hnone : section? (c :: (xs ++ rest)) = none := section?_cons_eq_none (Ne.symm hxs.1)
    rw [List.cons_append, List.length_cons, ← Nat.add_assoc, chunks, hnone, ih hxs.2,
      List.reverse_cons, List.append_assoc]
    rfl

theorem chunks_printAll (hrun : ∀ m ∈ run, m.isCharacters = true ∧ m.IsPlain) (index : Nat)
    {fuel : Nat} (hfuel : (printAll run).length < fuel) (front : List Char) :
    chunks fuel (front.flatMap escapeTextChar).reverse (printAll run)
      = itemsOf index front run := by
  induction run generalizing fuel front with
  | nil =>
    obtain ⟨fuel, rfl⟩ := Nat.exists_eq_add_one_of_ne_zero (Nat.ne_of_gt (Nat.zero_lt_of_lt hfuel))
    rw [printAll, chunks, plainItem_reverse, itemsOf]
    simp
  | cons m run ih =>
    obtain ⟨⟨hm, hplain⟩, hrest⟩ := List.forall_mem_cons.1 hrun
    rw [printAll] at hfuel ⊢
    rw [List.length_append] at hfuel
    cases m with
    | text s =>
      rw [Node.print, escapeText] at hfuel ⊢
      obtain ⟨k, rfl⟩ : ∃ k, fuel = k + (s.toList.flatMap escapeTextChar).length :=
        ⟨fuel - (s.toList.flatMap escapeTextChar).length, by omega⟩
      rw [chunks_plain (lt_notMem_escapeText _), ← List.reverse_append, ← List.flatMap_append,
        ih hrest (by omega), itemsOf]
    | cdata s =>
      rw [Node.print] at hfuel ⊢
      have hcons : printCdata s ++ printAll run
          = '<' :: (['!', '[', 'C', 'D', 'A', 'T', 'A', '['] ++ (s.toList ++ sectionStop)
            ++ printAll run) := by
        rw [printCdata_eq, sectionStart_eq]
        rfl
      obtain ⟨fuel, rfl⟩ : ∃ k, fuel = k + 1 := ⟨fuel - 1, by omega⟩
      have hlen : 0 < (printCdata s).length := by simp [printCdata_eq, sectionStart_eq]
      have hread : chunks fuel [] (printAll run) = itemsOf index [] run :=
        ih hrest (by omega) []
      rw [hcons, chunks, ← hcons, section?_printCdata hplain, itemsOf]
      simp only [plainItem_reverse, hread]
    | element _ _ | comment _ | instruction _ _ | reference _ => cases hm

theorem chunksOf_printAll (hrun : ∀ m ∈ run, m.isCharacters = true ∧ m.IsPlain) (index : Nat) :
    chunksOf (printAll run).reverse = itemsOf index [] run := by
  rw [chunksOf, List.reverse_reverse]
  exact chunks_printAll hrun index (Nat.lt_succ_self _) []

end Sections

section Items

theorem printAll_append (run : List Node) (n : Node) :
    printAll (run ++ [n]) = printAll run ++ n.print := by
  rw [printAll_eq_flatMap, printAll_eq_flatMap, List.flatMap_append, List.flatMap_singleton]

theorem silent_print (hn : n.isCharacters = true) (hclear : isClear n = true) :
    Silent n.print := by
  cases n with
  | text s =>
    rw [Node.print]
    exact silent_escapeText s
  | cdata s =>
    rw [Node.print]
    exact silent_printCdata (by simpa [isClear] using hclear)
  | element _ _ | comment _ | instruction _ _ | reference _ => cases hn

theorem itemsFrom_silent {xs : List Char} (hxs : Silent xs) (fuel : Nat) (done : List Char) :
    itemsFrom (fuel + xs.length) done (xs ++ rest) = itemsFrom fuel (xs.reverse ++ done) rest := by
  induction xs generalizing done with
  | nil => rfl
  | cons c xs ih =>
    have hnone : standIn? (c :: (xs ++ rest)) = none := hxs.1 rest
    rw [List.cons_append, List.length_cons, ← Nat.add_assoc, itemsFrom, hnone]
    simp only [ih hxs.2, List.reverse_cons, List.append_assoc, List.cons_append, List.nil_append]

theorem exists_cons_of_standIn? {index : Nat} (h : standIn? cs = some (index, rest)) :
    ∃ c more, cs = c :: more := by
  cases cs with
  | nil =>
    rw [standIn?_eq_none (by simp) (by simp) (by simp) (by simp)] at h
    cases h
  | cons c more => exact ⟨c, more, rfl⟩

/-- Printed content is read back run by run: `run` has the text and sections since the last
child. -/
theorem itemsFrom_printWithStandIns (hrun : ∀ m ∈ run, m.isCharacters = true)
    (hplain : ∀ m ∈ run ++ nodes, m.IsPlain) (hclear : ∀ m ∈ run ++ nodes, isClear m = true)
    (index : Nat) {fuel : Nat} (hfuel : (printWithStandIns index nodes).length < fuel) :
    itemsFrom fuel (printAll run).reverse (printWithStandIns index nodes)
      = itemsOf index [] (run ++ nodes) := by
  induction nodes generalizing run index fuel with
  | nil =>
    obtain ⟨fuel, rfl⟩ : ∃ k, fuel = k + 1 := ⟨fuel - 1, by omega⟩
    have hchunks : chunksOf (printAll run).reverse = itemsOf index [] run := chunksOf_printAll
      (fun m hm => ⟨hrun m hm, hplain m (List.mem_append_left _ hm)⟩) index
    rw [printWithStandIns, itemsFrom, hchunks, List.append_nil]
    simp
  | cons n rest ih =>
    have hmem : n ∈ run ++ n :: rest := by simp
    have hsplit : run ++ n :: rest = (run ++ [n]) ++ rest := by simp
    rw [printWithStandIns] at hfuel ⊢
    cases hn : n.isCharacters with
    | true =>
      rw [hn, if_pos rfl, List.length_append] at hfuel
      obtain ⟨k, rfl⟩ : ∃ k, fuel = k + n.print.length := ⟨fuel - n.print.length, by omega⟩
      have hrun' : ∀ m ∈ run ++ [n], m.isCharacters = true := by
        simpa [or_imp, forall_and, hn] using hrun
      rw [if_pos rfl, itemsFrom_silent (silent_print hn (hclear n hmem)), ← List.reverse_append,
        ← printAll_append, hsplit]
      exact ih hrun' (hsplit ▸ hplain) (hsplit ▸ hclear) index (by omega)
    | false =>
      rw [hn, if_neg (by simp), List.length_append] at hfuel
      have hread : ∀ more, standIn? (printStandIn index n ++ more)
          = some (standInNumber index n, more) := standIn?_printStandIn hn (hplain n hmem)
      -- A stand-in takes one step, however long it is, so that fuel is left for what follows.
      obtain ⟨c, more, hcons⟩ := exists_cons_of_standIn? (hread [])
      rw [List.append_nil] at hcons
      obtain ⟨fuel, rfl⟩ : ∃ k, fuel = k + 1 := ⟨fuel - 1, by omega⟩
      have hchunks : chunksOf (printAll run).reverse = itemsOf index [] run := chunksOf_printAll
        (fun m hm => ⟨hrun m hm, hplain m (List.mem_append_left _ hm)⟩) index
      have hlater : ∀ m ∈ [] ++ rest, m ∈ run ++ n :: rest := fun m hm =>
        List.mem_append_right run (List.mem_cons_of_mem n hm)
      have hrest : itemsFrom fuel [] (printWithStandIns (index + 1) rest)
          = itemsOf (index + 1) [] rest := by
        refine @ih [] (by simp) (fun m hm => hplain m (hlater m hm))
          (fun m hm => hclear m (hlater m hm)) (index + 1) fuel ?_
        rw [hcons, List.length_cons] at hfuel
        omega
      have hread := hread (printWithStandIns (index + 1) rest)
      rw [hcons, List.cons_append] at hread ⊢
      rw [if_neg (by simp), itemsFrom, hread, itemsOf_append_child hrun hn]
      simp only [hchunks, hrest]

/-- The items of an element as its children tell them. -/
theorem items_eq {e : Element} (hplain : ∀ n ∈ e.children, n.IsPlain)
    (hclear : ∀ n ∈ e.children, isClear n = true) : items e = itemsOf 0 [] e.children := by
  have hrun : ∀ m ∈ ([] : List Node), m.isCharacters = true := by simp
  rw [items]
  exact itemsFrom_printWithStandIns hrun hplain hclear 0 (Nat.lt_succ_self _)

end Items

end Content

end TemplateLexer
