import TemplateLexer.Proofs.EncodedTexts
import TemplateLexer.Proofs.Headings

set_option autoImplicit false

namespace TemplateLexer.Source

open Markup Text

section Characters

variable {c : Char}

def StandsInside (c : Char) : Prop := c.toNat < 128 ∧ c ≠ '>'

instance (c : Char) : Decidable (StandsInside c) :=
  inferInstanceAs (Decidable (c.toNat < 128 ∧ c ≠ '>'))

theorem standsInside_of_all {cs : List Char}
    (h : (cs.all fun c => decide (StandsInside c)) = true) : ∀ c ∈ cs, StandsInside c :=
  fun c hc => of_decide_eq_true (List.all_eq_true.1 h c hc)

theorem standsInside_mark : ∀ c ∈ "<?xml".toList, StandsInside c :=
  standsInside_of_all (by decide)

theorem eq_of_isBlank (h : Markup.isBlank c = true) : c = ' ' ∨ c = '\t' ∨ c = '\n' ∨ c = '\r' := by
  simpa only [Markup.isBlank, Bool.or_eq_true, beq_iff_eq, or_assoc] using h

theorem standsInside_of_isBlank (h : Markup.isBlank c = true) : StandsInside c := by
  rcases eq_of_isBlank h with rfl | rfl | rfl | rfl <;> exact ⟨by decide, by decide⟩

theorem isBlank_of_isBlank (h : Markup.isBlank c = true) : Text.isBlank c = true := by
  rcases eq_of_isBlank h with rfl | rfl | rfl | rfl <;> decide

theorem not_isWord_of_isBlank (h : Markup.isBlank c = true) : Text.isWord c = false := by
  rcases eq_of_isBlank h with rfl | rfl | rfl | rfl <;> decide +kernel

theorem standsInside_of_isEncodingChar (h : isEncodingChar c = true) : StandsInside c := by
  refine ⟨?_, fun hc => ?_⟩
  · simp only [isEncodingChar, Bool.or_eq_true, beq_iff_eq] at h
    rcases h with ((h | rfl) | rfl) | rfl
    · have halpha : c.isAlpha = (c.isUpper || c.isLower) := rfl
      have hupper : c.isUpper = decide (c.val ≥ 'A'.val ∧ c.val ≤ 'Z'.val) := rfl
      have hlower : c.isLower = (decide (c.val ≥ 'a'.val) && decide (c.val ≤ 'z'.val)) := rfl
      simp only [Char.isAlphanum, halpha, hupper, hlower, Char.isDigit, Bool.or_eq_true,
        Bool.and_eq_true, decide_eq_true_eq, UInt32.le_iff_toNat_le, ge_iff_le, Char.reduceVal,
        UInt32.reduceToNat] at h
      have hval : c.toNat = c.val.toNat := rfl
      omega
    all_goals decide
  · rw [hc] at h
    exact absurd h (by decide)

theorem standsInside_of_isDigit (h : c.isDigit = true) : StandsInside c :=
  standsInside_of_isEncodingChar <| by
    simp only [isEncodingChar, Char.isAlphanum, h, Bool.or_true, Bool.true_or]

theorem standsInside_of_isQuote (h : IsQuote c) : StandsInside c := by
  rcases h with rfl | rfl <;> exact ⟨by decide, by decide⟩

end Characters

section Inside

variable {t : WrittenHeading}

theorem standsInside_valued {s : Setting} {value : List Char}
    (h : ∀ c ∈ value, StandsInside c) : ∀ c ∈ s.valued value, StandsInside c := by
  intro c hc
  simp only [Setting.valued, List.mem_append, List.mem_cons, List.not_mem_nil, or_false] at hc
  rcases hc with (hc | rfl | hc) | rfl | hc | rfl
  · exact standsInside_of_isBlank (s.front_blank c hc)
  · exact ⟨by decide, by decide⟩
  · exact standsInside_of_isBlank (s.back_blank c hc)
  · exact standsInside_of_isQuote s.isQuote
  · exact h c hc
  · exact standsInside_of_isQuote s.isQuote

theorem standsInside_written {s : Setting} {word : String} {value : List Char}
    (hword : ∀ c ∈ word.toList, StandsInside c) (h : ∀ c ∈ value, StandsInside c) :
    ∀ c ∈ s.written word value, StandsInside c := by
  intro c hc
  rw [Setting.written, List.mem_append, List.mem_append] at hc
  rcases hc with hc | hc | hc
  · exact standsInside_of_isBlank (s.gap_blank c hc)
  · exact hword c hc
  · exact standsInside_valued h c hc

theorem standsInside_encoded (t : WrittenHeading) : ∀ c ∈ t.encoded, StandsInside c := by
  unfold WrittenHeading.encoded
  cases t.encoding with
  | none => exact fun c hc => absurd hc List.not_mem_nil
  | some encoding =>
    obtain ⟨setting, name, -, hname⟩ := encoding
    exact standsInside_written (standsInside_of_all (by decide)) fun c hc =>
      standsInside_of_isEncodingChar (hname c hc)

theorem standsInside_ending (t : WrittenHeading) : ∀ c ∈ t.gap ++ t.ending, StandsInside c := by
  have htrail : ∀ c ∈ t.trail ++ ['?'], StandsInside c := by
    intro c hc
    rcases List.mem_append.1 hc with hc | hc
    · exact standsInside_of_isBlank (t.trail_blank c hc)
    · rw [List.mem_singleton.1 hc]
      decide
  unfold WrittenHeading.gap WrittenHeading.ending
  cases t.standalone with
  | none => exact htrail
  | some standalone =>
    obtain ⟨setting, alone⟩ := standalone
    intro c hc
    dsimp only [Option.map_some, Option.getD_some] at hc
    rw [← List.append_assoc "standalone".toList, ← List.append_assoc, ← Setting.written] at hc
    rcases List.mem_append.1 hc with hc | hc
    · have hanswer : ∀ c ∈ WrittenHeading.answer alone, StandsInside c :=
        standsInside_of_all (by cases alone <;> decide)
      exact standsInside_written (standsInside_of_all (by decide)) hanswer c hc
    · exact htrail c hc

theorem standsInside_inside (t : WrittenHeading) : ∀ c ∈ t.inside, StandsInside c := by
  have hversion : ∀ c ∈ '1' :: '.' :: t.digits, StandsInside c := by
    intro c hc
    rcases List.mem_cons.1 hc with rfl | hc
    · decide
    · rcases List.mem_cons.1 hc with rfl | hc
      · decide
      · exact standsInside_of_isDigit (t.digits_digit c hc)
  intro c hc
  rw [WrittenHeading.inside, List.mem_append, List.mem_append] at hc
  rcases hc with hc | hc | hc
  · exact standsInside_written (standsInside_of_all (by decide)) hversion c hc
  · exact standsInside_encoded t c hc
  · exact standsInside_ending t c hc

theorem areAscii_written (t : WrittenHeading) : AreAscii t.written := by
  intro c hc
  rw [WrittenHeading.written, List.mem_append, List.mem_append] at hc
  rcases hc with hc | hc | hc
  · exact (standsInside_mark c hc).1
  · exact (standsInside_inside t c hc).1
  · rw [List.mem_singleton.1 hc]
    decide

theorem exists_inside (t : WrittenHeading) :
    ∃ front, t.inside = front ++ ['?'] := by
  have hending : ∃ front, t.ending = front ++ ['?'] := by
    unfold WrittenHeading.ending
    split
    · simp only [← List.append_assoc]
      exact ⟨_, rfl⟩
    · exact ⟨[], rfl⟩
  obtain ⟨front, hfront⟩ := hending
  rw [WrittenHeading.inside, hfront]
  simp only [← List.append_assoc]
  exact ⟨_, rfl⟩

theorem declarationBody?_written {s : String} {t : WrittenHeading} {rest : List Char}
    (hs : s.toList = t.written ++ rest) : declarationBody? s = some t.inside := by
  have hwritten : s.toList = '<' :: '?' :: 'x' :: 'm' :: 'l' :: (t.inside ++ '>' :: rest) := by
    rw [hs, WrittenHeading.written, List.append_assoc, List.append_assoc]
    rfl
  have hblank : Text.isBlank '<' = false := by decide
  have hnever : ∀ c ∈ t.inside, (c != '>') = true :=
    fun c hc => bne_iff_ne.2 (standsInside_inside t c hc).2
  obtain ⟨htake, hdrop⟩ := Reading.takeWhile_append ('>' :: rest) hnever
    (Reading.stops_cons (by decide))
  obtain ⟨front, hlast⟩ := exists_inside t
  have hedge : ((t.inside.head?.map Text.isWord).getD false) = false := by
    have hne := t.version.gap_ne
    have hgap := t.version.gap_blank
    cases h : t.version.gap with
    | nil => exact absurd h hne
    | cons c gap =>
      rw [WrittenHeading.inside, Setting.written, h]
      exact not_isWord_of_isBlank (hgap c (h ▸ List.mem_cons_self))
  rw [declarationBody?, hwritten, List.dropWhile_cons_of_neg (by rw [hblank]; decide)]
  simp only [htake, hdrop, hedge]
  rw [if_pos]
  simp only [hlast, List.getLast?_append, List.head?_cons]
  rfl

end Inside

section Given

theorem givenEncoding?_cons {before c : Char} {cs : List Char}
    (h : Text.isWord before = true ∨ c ≠ 'e') :
    givenEncoding? before (c :: cs) = givenEncoding? c cs := by
  have hhere : (!Text.isWord before && encodingWord.isPrefixOf (c :: cs)) = false := by
    rcases h with h | h
    · rw [h, Bool.not_true, Bool.false_and]
    · rw [Bool.and_eq_false_iff]
      exact .inr (Bool.and_eq_false_imp.2 fun he => absurd (beq_iff_eq.1 he).symm h)
  rw [givenEncoding?, hhere]
  rfl

theorem givenEncoding?_append {before : Char} {front cs : List Char} (h : 'e' ∉ front) :
    givenEncoding? before (front ++ cs) = givenEncoding? (front.getLastD before) cs := by
  induction front generalizing before with
  | nil => rfl
  | cons c front ih =>
    rw [List.mem_cons, not_or] at h
    rw [List.cons_append, givenEncoding?_cons (.inr (Ne.symm h.1)), ih h.2, List.getLastD_cons]

theorem e_notMem_of_isBlank {cs : List Char} (h : ∀ c ∈ cs, Markup.isBlank c = true) : 'e' ∉ cs :=
  fun he => absurd (h 'e' he) (by decide)

theorem getLastD_blank {before : Char} {cs : List Char} (hne : cs ≠ [])
    (h : ∀ c ∈ cs, Markup.isBlank c = true) : Markup.isBlank (cs.getLastD before) = true := by
  rw [List.getLastD_eq_getLast?, List.getLast?_eq_some_getLast hne]
  exact h _ (List.getLast_mem hne)

theorem e_ne_quote (s : Setting) : s.quote ≠ 'e' := by
  rcases s.isQuote with h | h <;> rw [h] <;> decide

theorem givenEncoding?_valued (before : Char) (s : Setting) (value cs : List Char) :
    givenEncoding? before (s.valued value ++ cs)
      = givenEncoding? s.quote (value ++ s.quote :: cs) := by
  have hvalued : s.valued value ++ cs
      = (s.front ++ '=' :: s.back) ++ s.quote :: (value ++ s.quote :: cs) := by
    simp only [Setting.valued, List.append_assoc, List.cons_append, List.nil_append]
  have hmem : 'e' ∉ s.front ++ '=' :: s.back := by
    intro he
    rw [List.mem_append, List.mem_cons] at he
    rcases he with he | he | he
    · exact e_notMem_of_isBlank s.front_blank he
    · cases he
    · exact e_notMem_of_isBlank s.back_blank he
  rw [hvalued, givenEncoding?_append hmem, givenEncoding?_cons (.inr (e_ne_quote s))]

theorem givenEncoding?_ending (before : Char) (t : WrittenHeading) :
    givenEncoding? before (t.gap ++ t.ending) = none := by
  have htrail : ∀ before, givenEncoding? before (t.trail ++ ['?']) = none := by
    intro before
    rw [givenEncoding?_append (e_notMem_of_isBlank t.trail_blank),
      givenEncoding?_cons (.inr (by decide))]
    rfl
  unfold WrittenHeading.gap WrittenHeading.ending
  cases t.standalone with
  | none => exact htrail before
  | some standalone =>
    obtain ⟨s, alone⟩ := standalone
    have hword : "standalone".toList = "standalon".toList ++ ['e'] := by decide
    have hrest : 'e' ∉ "standalon".toList := by decide
    have hlast : ∀ before, Text.isWord ("standalon".toList.getLastD before) = true := by
      intro before
      have hn : "standalon".toList.getLastD before = 'n' := rfl
      rw [hn]
      rfl
    dsimp only [Option.map_some, Option.getD_some]
    rw [givenEncoding?_append (e_notMem_of_isBlank s.gap_blank), hword, List.append_assoc,
      givenEncoding?_append hrest, List.cons_append, List.nil_append,
      givenEncoding?_cons (.inl (hlast _)), givenEncoding?_valued]
    have hquote : ∀ before, givenEncoding? before (s.quote :: (t.trail ++ ['?'])) = none := by
      intro before
      rw [givenEncoding?_cons (.inr (e_ne_quote s)), htrail]
    cases alone with
    | false =>
      rw [givenEncoding?_append (by decide)]
      exact hquote _
    | true =>
      have hyes : WrittenHeading.answer true = ['y', 'e', 's'] := by decide
      rw [hyes, List.cons_append, List.cons_append, List.cons_append, List.nil_append,
        givenEncoding?_cons (.inr (by decide)), givenEncoding?_cons (.inl rfl),
        givenEncoding?_cons (.inr (by decide)), hquote]

theorem namedValue?_valued {s : Setting} {name : String} (hname : IsEncodingName name)
    (cs : List Char) : namedValue? (s.valued name.toList ++ cs) = some name := by
  obtain ⟨⟨c, cs', hcs, -⟩, hall⟩ := hname
  have hfront := fun c hc => isBlank_of_isBlank (s.front_blank c hc)
  have hback := fun c hc => isBlank_of_isBlank (s.back_blank c hc)
  have hquote : Text.isBlank s.quote = false ∧ isEncodingChar s.quote = false
      ∧ isQuote s.quote = true := by
    rcases s.isQuote with h | h <;> rw [h] <;> decide
  have hvalued : s.valued name.toList ++ cs
      = s.front ++ '=' :: (s.back ++ s.quote :: (name.toList ++ s.quote :: cs)) := by
    simp only [Setting.valued, List.append_assoc, List.cons_append, List.nil_append]
  obtain ⟨-, hdrop⟩ := Reading.takeWhile_append
    ('=' :: (s.back ++ s.quote :: (name.toList ++ s.quote :: cs))) hfront
    (Reading.stops_cons (by decide))
  obtain ⟨-, hdrop'⟩ := Reading.takeWhile_append (s.quote :: (name.toList ++ s.quote :: cs)) hback
    (Reading.stops_cons hquote.1)
  obtain ⟨htake, hdrop''⟩ := Reading.takeWhile_append (s.quote :: cs) hall
    (Reading.stops_cons hquote.2.1)
  rw [namedValue?, hvalued, hdrop]
  simp only [hdrop', htake, hdrop'', hquote.2.2]
  rw [if_pos (by rw [hcs]; rfl), String.ofList_toList]

theorem givenEncoding?_word {before : Char} {cs : List Char} {name : String}
    (hbefore : Text.isWord before = false) (hcs : namedValue? cs = some name) :
    givenEncoding? before ("encoding".toList ++ cs) = some name := by
  have hword : "encoding".toList ++ cs = 'e' :: ("ncoding".toList ++ cs) := rfl
  have hprefix : encodingWord.isPrefixOf ("encoding".toList ++ cs) = true :=
    List.isPrefixOf_iff_prefix.2 (List.prefix_append ..)
  have hdrop : ("encoding".toList ++ cs).drop encodingWord.length = cs := List.drop_left
  rw [hword, givenEncoding?, ← hword, hprefix, hbefore, hdrop, hcs]
  rfl

theorem givenEncoding?_inside (t : WrittenHeading) : givenEncoding? 'l' t.inside = t.name? := by
  have hversion : ∀ before cs, givenEncoding? before ("version".toList ++ cs)
      = givenEncoding? 'n' cs := by
    intro before cs
    have hword : "version".toList = 'v' :: 'e' :: "rsion".toList := by decide
    rw [hword, List.cons_append, List.cons_append, givenEncoding?_cons (.inr (by decide)),
      givenEncoding?_cons (.inl rfl), givenEncoding?_append (by decide)]
    rfl
  have hdigits : 'e' ∉ '1' :: '.' :: t.digits := by
    intro he
    simp only [List.mem_cons, Char.reduceEq, false_or] at he
    exact absurd (t.digits_digit _ he) (by decide)
  rw [WrittenHeading.inside, Setting.written, List.append_assoc, List.append_assoc,
    givenEncoding?_append (e_notMem_of_isBlank t.version.gap_blank), hversion,
    givenEncoding?_valued, givenEncoding?_append hdigits,
    givenEncoding?_cons (.inr (e_ne_quote t.version))]
  unfold WrittenHeading.encoded WrittenHeading.name?
  cases t.encoding with
  | none => exact givenEncoding?_ending _ t
  | some encoding =>
    obtain ⟨s, name, hname⟩ := encoding
    have hbefore : Text.isWord (s.gap.getLastD t.version.quote) = false :=
      not_isWord_of_isBlank (getLastD_blank s.gap_ne s.gap_blank)
    dsimp only [Option.map_some, Option.getD_some]
    rw [Setting.written, List.append_assoc, List.append_assoc,
      givenEncoding?_append (e_notMem_of_isBlank s.gap_blank)]
    exact givenEncoding?_word hbefore (namedValue?_valued hname _)

end Given

end TemplateLexer.Source
