import TemplateLexer.Proofs.TextBytes
import TemplateLexer.Proofs.WholePaths

set_option autoImplicit false

namespace TemplateLexer.Markup

/-- An element with fewer children than this needs no more than 18 digits to number them. -/
def childLimit : Nat := 1000000000000000000

/-- Names and numbers of children that leave paths whole. -/
def Element.Fits (root : Element) : Prop :=
  ∀ q ∈ root.places,
    q.tag.name.written.utf8ByteSize ≤ stepLimit ∧ q.element.children.length < childLimit

instance : DecidablePred Element.Fits := fun root =>
  inferInstanceAs (Decidable (∀ q ∈ root.places,
    q.tag.name.written.utf8ByteSize ≤ stepLimit ∧ q.element.children.length < childLimit))

section Bytes

variable {n : Name} {before after : List Node} {e root : Element} {above : List Tag} {a : Address}
  {steps : List String}

theorem PathRoom.written_foldr {steps : List (List UInt8)}
    (h : ∀ s ∈ steps, s.length < PathRoom.margin) :
    (steps.foldr PathRoom.add .start).written = steps.flatten := by
  induction steps with
  | nil => rfl
  | cons s steps ih =>
    obtain ⟨hs, hsteps⟩ := List.forall_mem_cons.1 h
    rw [List.foldr_cons, List.flatten_cons, PathRoom.add, ih hsteps]
    refine List.take_of_length_le ?_
    rw [List.length_append]
    split <;> omega

theorem utf8ByteSize_digits {cs : List Char} (h : ∀ c ∈ cs, c.isDigit = true) :
    (String.ofList cs).utf8ByteSize = cs.length := by
  induction cs with
  | nil => rfl
  | cons c cs ih =>
    obtain ⟨hc, hcs⟩ := List.forall_mem_cons.1 h
    have hval : 48 ≤ c.val ∧ c.val ≤ 57 := by simpa [Char.isDigit] using hc
    have hone : c.utf8Size = 1 := by
      rw [Char.utf8Size, if_pos]
      exact UInt32.le_trans hval.2 (by decide)
    have hsplit : String.ofList (c :: cs) = String.singleton c ++ String.ofList cs := by
      rw [← String.toList_inj]
      simp
    rw [hsplit, String.utf8ByteSize_append, String.utf8ByteSize_singleton, hone, ih hcs,
      List.length_cons, Nat.add_comm]

theorem countLike_le_length (n : Name) (nodes : List Node) : countLike n nodes ≤ nodes.length :=
  List.countP_le_length

theorem utf8ByteSize_ordinalBetween (h : before.length + 1 < childLimit) :
    (ordinalBetween before after n).utf8ByteSize ≤ 20 := by
  have hcount : countLike n before + 1 < 10 ^ 18 :=
    Nat.lt_of_le_of_lt (Nat.succ_le_succ (countLike_le_length n before)) h
  have hdigits := (Nat.length_toDigits_le_iff (by decide) (by decide)).2 hcount
  rw [ordinalBetween]
  split
  · decide
  · have hnumber : (toString (countLike n before + 1)).utf8ByteSize ≤ 18 := by
      have hdigit : ∀ c ∈ Nat.toDigits 10 (countLike n before + 1), c.isDigit = true :=
        fun c hc => Nat.isDigit_of_mem_toDigits (by decide) (by decide) hc
      exact (utf8ByteSize_digits hdigit).trans_le hdigits
    rw [String.utf8ByteSize_append, String.utf8ByteSize_append]
    exact Nat.add_le_add (Nat.add_le_add_left hnumber 1) (Nat.le_refl 1)

theorem stepBetween_eq (h : n.written.utf8ByteSize ≤ stepLimit) :
    stepBetween before after n = (wholeStep before after n).toUTF8.toList := by
  have hname : n.step = n.shown.toUTF8.toList := by
    rw [Name.step, Name.shown]
    split
    · simp_all
    · rw [List.take_of_length_le (length_toUTF8 _ ▸ h)]
      simp_all
    · simp_all
  rw [stepBetween, wholeStep, toUTF8_append, toUTF8_append, hname, ordinalBetween]

theorem utf8ByteSize_wholeStep (h : n.written.utf8ByteSize ≤ stepLimit)
    (hbefore : before.length + 1 < childLimit) :
    (wholeStep before after n).utf8ByteSize < PathRoom.margin := by
  have hname : n.shown.utf8ByteSize ≤ stepLimit := by
    rw [Name.shown]
    split
    · decide
    · exact h
  have hordinal : (ordinalBetween before after n).utf8ByteSize ≤ 20 :=
    utf8ByteSize_ordinalBetween hbefore
  rw [wholeStep, String.utf8ByteSize_append, String.utf8ByteSize_append]
  have hslash : "/".utf8ByteSize = 1 := rfl
  rw [hslash]
  rw [stepLimit] at hname
  rw [PathRoom.margin]
  omega

theorem steps_of_wholeSteps
    (hfits : ∀ b ab x, e.locate above b = some (ab, x) →
      x.tag.name.written.utf8ByteSize ≤ stepLimit ∧ x.children.length < childLimit)
    (h : e.wholeSteps a = some steps) :
    e.steps a = some (steps.map fun s => s.toUTF8.toList)
      ∧ ∀ s ∈ steps, s.utf8ByteSize < PathRoom.margin := by
  induction a generalizing e above steps with
  | nil =>
    cases h
    exact ⟨rfl, by simp⟩
  | cons i a ih =>
    rw [Element.wholeSteps] at h
    split at h
    · rename_i before tag children run after haround
      obtain ⟨inner, hinner, rfl⟩ := Option.map_eq_some_iff.1 h
      obtain ⟨hnodes, rfl, hn⟩ := around_eq haround
      have hitem := hnodes ▸ getElem?_items before (run ++ after) hn
      obtain ⟨hname, -⟩ := hfits [_] _ ⟨tag, children⟩ (locate_cons hitem [])
      obtain ⟨hsteps, hshort⟩ :=
        ih (fun b ab x hx => hfits (_ :: b) ab x ((locate_cons hitem b).trans hx)) hinner
      have hbefore : before.length + 1 < childLimit := by
        obtain ⟨-, hchildren⟩ := hfits [] above e rfl
        rw [hnodes, List.length_append, List.length_cons] at hchildren
        omega
      refine ⟨?_, List.forall_mem_cons.2 ⟨utf8ByteSize_wholeStep hname hbefore, hshort⟩⟩
      rw [Element.steps, haround]
      simp only [hsteps, Option.map_some, stepBetween_eq hname, List.map_cons]
    · cases h

/-- No path is cut where names are short and children are few. -/
theorem Element.Fits.keepsPaths (h : root.Fits) : root.KeepsPaths := by
  intro q hq
  obtain ⟨steps, hwhole⟩ := exists_wholeSteps (mem_places_iff.1 hq)
  obtain ⟨hsteps, hshort⟩ := steps_of_wholeSteps
    (fun b ab x hx => h ⟨b, ab, x⟩ (mem_places_iff.2 hx)) hwhole
  have hname : root.tag.name.written.utf8ByteSize ≤ stepLimit := (h _ (root_mem_places root)).1
  have hall : ∀ s ∈ wholeStep [] [] root.tag.name :: steps, s.utf8ByteSize < PathRoom.margin :=
    List.forall_mem_cons.2 ⟨utf8ByteSize_wholeStep hname (by decide), hshort⟩
  have hbytes : ((stepBetween [] [] root.tag.name :: steps.map fun s => s.toUTF8.toList).foldr
        PathRoom.add .start).written
      = (String.join (wholeStep [] [] root.tag.name :: steps)).toUTF8.toList := by
    rw [stepBetween_eq hname, toUTF8_join, List.map_cons, ← PathRoom.written_foldr]
    intro bytes hmem
    rw [← List.map_cons (f := fun s : String => s.toUTF8.toList)] at hmem
    obtain ⟨s, hs, rfl⟩ := List.mem_map.1 hmem
    rw [length_toUTF8]
    exact hall s hs
  rw [Element.wholePath?, hwhole, Option.map_some, ← fromUTF8?_toUTF8, ← hbytes, Element.path?,
    hsteps]
  rfl

end Bytes

end TemplateLexer.Markup
