import TemplateLexer.Proofs.FoundHeadings
/-!
What becomes of texts with a declaration and of texts without one. A text that begins as
declarations do is put into bytes and read from these again, in the encoding that the document
declares.
-/

set_option autoImplicit false

namespace TemplateLexer.Source

open Markup Text

section Bytes

variable {t : WrittenHeading} {rest : List Char} {s : String} {e : Encoding} {bs : List UInt8}
  {d : Document}

theorem readText_eq (h : s.toList.head? ≠ some '\ufeff') :
    readText s = Document.read (fun _ => .accepted) (fun _ => widthEncoding s) s.toList := by
  unfold readText
  dsimp only
  split
  · rename_i cs hcs
    rw [hcs] at h
    exact absurd rfl h
  · rfl

theorem sniffed_bracket (bs : List UInt8) :
    sniffed (0x3c :: 0x3f :: bs) = (none, 0x3c :: 0x3f :: bs) := rfl

theorem sniffed_blank {b : UInt8} (h : b = 0x20 ∨ b = 0x09 ∨ b = 0x0a ∨ b = 0x0d)
    (bs : List UInt8) : sniffed (b :: bs) = (none, b :: bs) := by
  rcases h with rfl | rfl | rfl | rfl <;> rfl

theorem declaredName?_written (t : WrittenHeading) (bs : List UInt8) :
    declaredName? (narrowed t.written ++ bs) = t.name? := by
  have hview : (narrowed t.written ++ bs).map (fun b => Char.ofNat b.toNat)
      = t.written ++ bytewise bs := bytewise_append (areAscii_written t) bs
  rw [declaredName?, hview, Reading.heading_written t fun _ _ => rfl]
  rfl

theorem readBytes_written (he : usual? t.name? = some e)
    (hbs : e.encode (t.written ++ rest) = .ok bs) :
    ∃ judge, (∀ n, t.name? = some n → judge n = .accepted)
      ∧ readBytes bs = Document.read judge (declaredOr "UTF-8") (t.written ++ rest) := by
  have hdecode := Encoding.decode_encode (isPlain_of_usual? he) hbs
  obtain ⟨bs', hfront⟩ := Encoding.exists_narrowed_append (isPlain_of_usual? he)
    (areAscii_written t) hbs
  have hname : declaredName? bs = t.name? := hfront ▸ declaredName?_written t bs'
  have hsniffed : sniffed bs = (none, bs) := by
    rw [hfront, WrittenHeading.written]
    exact sniffed_bracket _
  refine ⟨fun name => if (inDeclared? bs name).isSome then .accepted else .refused, ?_, ?_⟩
  · intro n hn
    rw [hn] at he
    simp only [inDeclared?, encoding?_of_usual? he, Option.bind_some, hdecode, Option.isSome_some,
      if_true]
  · have hcs : ((declaredName? bs).bind (inDeclared? bs)).getD (Unicode.decode8 bs)
        = t.written ++ rest := by
      rw [hname]
      cases hn : t.name? with
      | none =>
        rw [hn] at he
        cases he
        rw [Encoding.decode] at hdecode
        injection hdecode
      | some n =>
        rw [hn] at he
        rw [Option.bind_some, inDeclared?, encoding?_of_usual? he, Option.bind_some, hdecode,
          Option.getD_some]
    simp only [readBytes, hsniffed, readDeclared, hcs]

theorem load_of_encode {inside : List Char} {form : WrittenForm}
    (hinside : declarationBody? s = some inside)
    (hform : WrittenForm.named? ((givenEncoding? 'l' inside).getD "utf-8") = some form)
    (hbs : form.encode s = .ok bs) (file : Option String) :
    load (.text s) file = (readBytes bs).mapError fun line => .unreadable .illFormed line file := by
  simp only [load, hinside, hform, hbs]
  cases readBytes bs <;> rfl

theorem encode_plain (h : e.encode s.toList = .ok bs) :
    (WrittenForm.plain e).encode s = .ok bs := by
  rw [WrittenForm.encode, WrittenForm.plain, h]
  rfl

theorem load_written (hs : s.toList = t.written ++ rest) (he : usual? t.name? = some e)
    (hbs : e.encode s.toList = .ok bs) (hread : readText s = .ok d) (file : Option String) :
    load (.text s) file = .ok { d with encoding := t.name?.getD "UTF-8" } := by
  have hnamed : WrittenForm.named? ((givenEncoding? 'l' t.inside).getD "utf-8")
      = some (.plain e) := by
    rw [givenEncoding?_inside]
    exact named?_of_usual? he
  rw [load_of_encode (declarationBody?_written hs) hnamed (encode_plain hbs)]
  rw [readText_eq (by rw [hs]; nofun), hs] at hread
  rw [hs] at hbs
  obtain ⟨judge, hjudge, hbytes⟩ := readBytes_written he hbs
  rw [hbytes, Document.read_encoding _ (Reading.heading_written t hjudge rest)
    (Reading.heading_written t (fun _ _ => rfl) rest), hread]
  rfl

/-- What stands behind the declaration is the same document. -/
theorem readText_written (hs : s.toList = t.written ++ rest) (hread : readText s = .ok d) :
    (∃ d', readText (String.ofList rest) = .ok d' ∧ d.Resembles d')
      ∨ ((∃ e, DoctypeItem.entity e ∈ d.items)
        ∧ ∀ d', readText (String.ofList rest) ≠ .ok d') := by
  rw [readText_eq (by rw [hs]; nofun), hs] at hread
  have hbegins := Document.begins_of_read (fun _ _ => rfl) hread
  have hmark : (String.ofList rest).toList.head? ≠ some '\ufeff' := by
    rw [String.toList_ofList]
    intro h
    obtain ⟨cs, rfl⟩ := List.head?_eq_some_iff.1 h
    exact hbegins (.inr ⟨'\ufeff', cs, rfl, by decide, by decide⟩)
  rw [readText_eq hmark, String.toList_ofList]
  exact Document.read_written (fun _ _ => rfl) hread _

end Bytes

section Undeclared

variable {s : String} {e : Encoding} {bs : List UInt8} {d : Document} {inside : List Char}

theorem startsHeading_iff {cs : List Char} : Reading.startsHeading cs = true ↔
    ∃ c, Markup.isBlank c = true ∧ "<?xml".toList ++ [c] <+: cs := by
  constructor
  · intro h
    unfold Reading.startsHeading at h
    split at h
    · exact ⟨_, h, _, rfl⟩
    · cases h
  · rintro ⟨c, hc, rest, rfl⟩
    exact hc

theorem startsHeading_decode8 (bs : List UInt8) :
    Reading.startsHeading (Unicode.decode8 bs) = Reading.startsHeading (bytewise bs) := by
  rw [Bool.eq_iff_iff, startsHeading_iff, startsHeading_iff]
  refine exists_congr fun c => and_congr_right fun hc => prefix_decode8_iff ?_ ?_ bs
  · intro d hd
    rcases List.mem_append.1 hd with hd | hd
    · exact (standsInside_mark d hd).1
    · rw [List.mem_singleton.1 hd]
      exact (standsInside_of_isBlank hc).1
  · intro hd
    rcases List.mem_append.1 hd with hd | hd
    · exact absurd hd (by decide)
    · rw [← List.mem_singleton.1 hd] at hc
      exact absurd hc (by decide)

/-- A text without declaration begins with a bracket or a blank if it is taken for one with a
declaration. -/
theorem exists_front (hread : readText s = .ok d) (hplain : Reading.startsHeading s.toList = false)
    (hinside : declarationBody? s = some inside) :
    (∃ rest, s.toList = '<' :: '?' :: rest)
      ∨ ∃ c rest, s.toList = c :: rest ∧ Markup.isBlank c = true := by
  cases hcs : s.toList with
  | nil =>
    rw [declarationBody?, hcs] at hinside
    cases hinside
  | cons c cs =>
    by_cases hc : Text.isBlank c = true
    · refine .inr ⟨c, cs, rfl, ?_⟩
      by_contra hblank
      have hmark : s.toList.head? ≠ some '\ufeff' := by
        rw [hcs]
        intro h
        injection h with h
        rw [h] at hc
        exact absurd hc (by decide)
      rw [readText_eq hmark, Document.read, Reading.document_eq,
        Reading.bind_of_ok (Reading.heading_of_not_startsHeading hplain _)] at hread
      have hforeign : Reading.IsForeign s.toList :=
        ⟨c, cs, hcs, Bool.eq_false_iff.2 hblank, by rintro rfl; exact absurd hc (by decide)⟩
      split at hread
      · cases hread
      · rename_i hrun
        exact Reading.fails_body _ _ _ (.inr hforeign) _ hrun
    · rw [declarationBody?, hcs, List.dropWhile_cons_of_neg hc] at hinside
      split at hinside
      · rename_i heq
        exact .inl ⟨_, heq⟩
      · cases hinside

theorem head_ne_mark (hfront : (∃ rest, s.toList = '<' :: '?' :: rest)
    ∨ ∃ c rest, s.toList = c :: rest ∧ Markup.isBlank c = true) :
    s.toList.head? ≠ some '\ufeff' := by
  intro h
  rcases hfront with ⟨rest, hs⟩ | ⟨c, rest, hs, hc⟩
  · rw [hs] at h
    cases h
  · rw [hs] at h
    cases h
    exact absurd hc (by decide)

theorem sniffed_front (hfront : (∃ rest, s.toList = '<' :: '?' :: rest)
      ∨ ∃ c rest, s.toList = c :: rest ∧ Markup.isBlank c = true) (he : e.IsPlain)
    (hbs : e.encode s.toList = .ok bs) : sniffed bs = (none, bs) := by
  rcases hfront with ⟨rest, hs⟩ | ⟨c, rest, hs, hc⟩
  · have hinside : ∀ c ∈ ['<', '?'], StandsInside c := standsInside_of_all (by decide)
    have hbs' : e.encode (['<', '?'] ++ rest) = .ok bs := by rwa [hs] at hbs
    obtain ⟨bs', rfl⟩ := Encoding.exists_narrowed_append he (fun c hc => (hinside c hc).1) hbs'
    exact sniffed_bracket bs'
  · have hascii : AreAscii [c] := fun d hd => by
      rw [List.mem_singleton.1 hd]
      exact (standsInside_of_isBlank hc).1
    have hbs' : e.encode ([c] ++ rest) = .ok bs := by rwa [hs] at hbs
    obtain ⟨bs', rfl⟩ := Encoding.exists_narrowed_append he hascii hbs'
    refine sniffed_blank ?_ bs'
    rcases eq_of_isBlank hc with rfl | rfl | rfl | rfl <;> decide

theorem readBytes_undeclared (hsniffed : sniffed bs = (none, bs))
    (hplain : Reading.startsHeading (Unicode.decode8 bs) = false) :
    readBytes bs = Document.read (fun _ => .accepted) (fun _ => "UTF-8") (Unicode.decode8 bs) := by
  have hname : declaredName? bs = none := by
    rw [startsHeading_decode8] at hplain
    have hheading := Reading.heading_of_not_startsHeading hplain fun _ => .accepted
    rw [declaredName?]
    exact hheading ▸ rfl
  simp only [readBytes, hsniffed, readDeclared, hname, Option.bind_none, Option.getD_none]
  exact Document.read_congr (Reading.heading_of_not_startsHeading hplain _)
    (Reading.heading_of_not_startsHeading hplain _) rfl

theorem load_undeclared (hinside : declarationBody? s = none) (hread : readText s = .ok d)
    (file : Option String) :
    load (.text s) file = if declaresUnclosed s then .error .badValue else .ok d := by
  simp only [load, hinside, hread]

/-- A text without declaration that is taken for one with a declaration is right if its bytes are
those of UTF-8. -/
theorem load_misled {form : WrittenForm} (hread : readText s = .ok d)
    (hplain : Reading.startsHeading s.toList = false) (hinside : declarationBody? s = some inside)
    (hform : WrittenForm.named? ((givenEncoding? 'l' inside).getD "utf-8") = some form)
    (hbs : form.encode s = .ok bs) (hutf8 : bs = s.toUTF8.toList) (file : Option String) :
    load (.text s) file = .ok { d with encoding := "UTF-8" } := by
  have hfront := exists_front hread hplain hinside
  have hencode : Encoding.utf8.encode s.toList = .ok bs := by
    rw [Encoding.encode_utf8, hutf8, Markup.toUTF8_toList]
  have hdecode : Unicode.decode8 bs = s.toList := by
    rw [hutf8, Markup.toUTF8_toList, Unicode.decode8_flatMap]
  have hheading := fun judge => Reading.heading_of_not_startsHeading hplain judge
  rw [load_of_encode hinside hform hbs,
    readBytes_undeclared (sniffed_front hfront (.inl rfl) hencode) (hdecode.symm ▸ hplain), hdecode,
    Document.read_encoding (fun _ => widthEncoding s) (hheading _) (hheading _),
    ← readText_eq (head_ne_mark hfront), hread]
  rfl

/-- With one byte for each character it is read as if these bytes were of UTF-8. -/
theorem load_misread (hread : readText s = .ok d)
    (hplain : Reading.startsHeading s.toList = false) (hinside : declarationBody? s = some inside)
    {n : Nat} (hn : n ≤ 256)
    (hform : WrittenForm.named? ((givenEncoding? 'l' inside).getD "utf-8")
      = some (.plain (.lowest n)))
    (hbs : (WrittenForm.plain (.lowest n)).encode s = .ok bs) (file : Option String) :
    load (.text s) file
      = (Document.read (fun _ => .accepted) (fun _ => "UTF-8") (Unicode.decode8 bs)).mapError
        fun line => .unreadable .illFormed line file := by
  have hencode : (Encoding.lowest n).encode s.toList = .ok bs := by
    rw [WrittenForm.encode, WrittenForm.plain] at hbs
    cases h : (Encoding.lowest n).encode s.toList with
    | error r =>
      rw [h] at hbs
      cases hbs
    | ok bs' =>
      rw [h] at hbs
      exact hbs
  have hfront := exists_front hread hplain hinside
  have hview : bytewise bs = s.toList := by
    obtain ⟨rfl, hcs⟩ := Encoding.encode_lowest hencode
    exact bytewise_narrowed fun c hc => Nat.lt_of_lt_of_le (hcs c hc) hn
  rw [load_of_encode hinside hform hbs,
    readBytes_undeclared (sniffed_front hfront (.inr ⟨n, hn, rfl⟩) hencode)
      (by rw [startsHeading_decode8, hview, hplain])]

end Undeclared

/-- What becomes of every text that is a document. One with a declaration in an encoding of the
usual names is loaded, and its tree is the one of the text behind the declaration, unless entities
are declared: what these may grow to goes by the length of all that is read, so that the text
behind may be refused. One without declaration is loaded as it is unless it begins as declarations
do. Then, put into the bytes of the encoding that it gives, it is read from these as if they were of
UTF-8: it is as it was where they are, and else another text or none. -/
theorem load_texts {s : String} {d : Document} (hread : readText s = .ok d)
    (file : Option String) :
    (∀ (t : WrittenHeading) (rest : List Char) (e : Encoding) (bs : List UInt8),
      s.toList = t.written ++ rest → usual? t.name? = some e → e.encode s.toList = .ok bs →
        load (.text s) file = .ok { d with encoding := t.name?.getD "UTF-8" }
          ∧ ((∃ d', readText (String.ofList rest) = .ok d' ∧ d.Resembles d')
            ∨ ((∃ e, DoctypeItem.entity e ∈ d.items)
              ∧ ∀ d', readText (String.ofList rest) ≠ .ok d')))
    ∧ (Reading.startsHeading s.toList = false → declarationBody? s = none →
        load (.text s) file = if declaresUnclosed s then .error .badValue else .ok d)
    ∧ (Reading.startsHeading s.toList = false →
        ∀ (inside : List Char) (form : WrittenForm) (bs : List UInt8),
          declarationBody? s = some inside →
          WrittenForm.named? ((givenEncoding? 'l' inside).getD "utf-8") = some form →
          form.encode s = .ok bs →
            (bs = s.toUTF8.toList → load (.text s) file = .ok { d with encoding := "UTF-8" })
            ∧ ∀ n ≤ 256, form = .plain (.lowest n) →
              load (.text s) file
                = (Document.read (fun _ => .accepted) (fun _ => "UTF-8")
                  (Unicode.decode8 bs)).mapError fun line => .unreadable .illFormed line file) := by
  refine ⟨fun t rest e bs hs he hbs => ?_, fun _ hinside => ?_, ?_⟩
  · exact ⟨load_written hs he hbs hread file, readText_written hs hread⟩
  · exact load_undeclared hinside hread file
  · intro hplain inside form bs hinside hform hbs
    refine ⟨fun hutf8 => load_misled hread hplain hinside hform hbs hutf8 file, ?_⟩
    rintro n hn rfl
    exact load_misread hread hplain hinside hn hform hbs file

section Samples

def plainSetting : Setting where
  gap := [' ']
  front := []
  back := []
  quote := '"'
  gap_ne := by decide
  gap_blank := by simp [Markup.isBlank]
  front_blank := by simp
  back_blank := by simp
  isQuote := .inl rfl

/-- A declaration of the encoding with one byte for each character. -/
def latinHeading : WrittenHeading where
  version := plainSetting
  digits := ['0']
  encoding := some (plainSetting, ⟨"ISO-8859-1", ⟨'I', "SO-8859-1".toList, by decide, by decide⟩,
    fun c hc => List.all_eq_true.1 (by decide :
      ("ISO-8859-1".toList.all isEncodingChar) = true) c hc⟩)
  standalone := none
  trail := []
  digits_digit := by simp [Char.isDigit]
  trail_blank := by simp

def latinBody : List Char := "<r>é</r>".toList

theorem load_texts_sample :
    (∃ d d' : Document, load (.text (String.ofList (latinHeading.written ++ latinBody))) none
        = .ok { d with encoding := "ISO-8859-1" }
      ∧ readText (String.ofList latinBody) = .ok d' ∧ d.Resembles d')
    ∧ (∃ d : Document, readText "<?xml-stylesheet a='>'?><r>é</r>" = .ok d
      ∧ load (.text "<?xml-stylesheet a='>'?><r>é</r>") none = .ok d)
    ∧ ∃ d : Document, readText "<?xml-stylesheet a='x'?><r>é</r>" = .ok d
      ∧ load (.text "<?xml-stylesheet a='x'?><r>é</r>") none
        = .ok { d with encoding := "UTF-8" } := by
  refine ⟨?_, ?_, ?_⟩
  · obtain ⟨d, hd⟩ := Except.exists_of_isOk
      (x := readText (String.ofList (latinHeading.written ++ latinBody))) (by decide +kernel)
    obtain ⟨bs, hbs⟩ := Except.exists_of_isOk
      (x := (Encoding.lowest 256).encode (latinHeading.written ++ latinBody)) (by decide +kernel)
    obtain ⟨hload, hbody⟩ := (load_texts hd none).1 latinHeading latinBody (.lowest 256) bs
      String.toList_ofList (by decide +kernel) (String.toList_ofList.symm ▸ hbs)
    obtain ⟨d', hd'⟩ := Except.exists_of_isOk (x := readText (String.ofList latinBody))
      (by decide +kernel)
    rcases hbody with ⟨d'', hd'', hdd⟩ | ⟨-, hfails⟩
    · exact ⟨d, d'', hload, hd'', hdd⟩
    · exact absurd hd' (hfails d')
  · obtain ⟨d, hd⟩ := Except.exists_of_isOk (x := readText "<?xml-stylesheet a='>'?><r>é</r>")
      (by decide +kernel)
    exact ⟨d, hd, (load_texts hd none).2.1 (by decide +kernel) (by decide +kernel)⟩
  · obtain ⟨d, hd⟩ := Except.exists_of_isOk (x := readText "<?xml-stylesheet a='x'?><r>é</r>")
      (by decide +kernel)
    refine ⟨d, hd, ?_⟩
    have hinside : declarationBody? "<?xml-stylesheet a='x'?><r>é</r>"
        = some "-stylesheet a='x'?".toList := by decide +kernel
    have hgiven : givenEncoding? 'l' "-stylesheet a='x'?".toList = none := by decide +kernel
    have hform : WrittenForm.named? ((givenEncoding? 'l' "-stylesheet a='x'?".toList).getD "utf-8")
        = some (.plain .utf8) := by rw [hgiven]; rfl
    have hbs : (WrittenForm.plain .utf8).encode "<?xml-stylesheet a='x'?><r>é</r>"
        = .ok "<?xml-stylesheet a='x'?><r>é</r>".toUTF8.toList :=
      encode_plain ((Encoding.encode_utf8 _).trans (congrArg _ (Markup.toUTF8_toList _).symm))
    exact ((load_texts hd none).2.2 (by decide +kernel) _ _ _ hinside hform hbs).1 rfl

/-- A text without declaration that is put into other bytes than those it is read from. -/
theorem load_texts_misread :
    ∃ d : Document, readText "<?xml-stylesheet encoding='ISO-8859-1'?><r>é</r>" = .ok d
      ∧ Reading.startsHeading "<?xml-stylesheet encoding='ISO-8859-1'?><r>é</r>".toList = false
      ∧ ∀ d', load (.text "<?xml-stylesheet encoding='ISO-8859-1'?><r>é</r>") none ≠ .ok d' := by
  obtain ⟨d, hd⟩ := Except.exists_of_isOk
    (x := readText "<?xml-stylesheet encoding='ISO-8859-1'?><r>é</r>") (by decide +kernel)
  refine ⟨d, hd, by decide +kernel, fun d' hd' => ?_⟩
  have hfails : (load (.text "<?xml-stylesheet encoding='ISO-8859-1'?><r>é</r>") none).isOk
      = false := by decide +kernel
  rw [hd'] at hfails
  cases hfails

end Samples

end TemplateLexer.Source
