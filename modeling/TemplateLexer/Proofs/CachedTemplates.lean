import TemplateLexer.Lexer
import TemplateLexer.Proofs.Caching
import TemplateLexer.Proofs.Namespaced
import TemplateLexer.Proofs.Origins
/-!
Lexed templates as JSON text. What is lexed has fields of their types, so that its text gives it
back, unless an author gave a helper the attribute that names streams.
-/

set_option autoImplicit false

namespace TemplateLexer

variable {file : Option String} {t : Token} {shape : Shape} {kind : TokenKind} {line : Int}
  {fields : List (String × Record)}

namespace Record

@[simp] theorem fits_text (s : String) : (text s).fits .text := by
  rw [text, fits_value]
  rfl

@[simp] theorem fits_optionalText (s : Option String) : (optionalText s).fits .optionalText := by
  rw [optionalText, fits_value]
  cases s <;> rfl

theorem fits_ofFields (h : FieldsFit fields shape.ownTypes) :
    (ofFields shape kind line file fields).fits .token := by
  have hline : (value (.int line)).fits .number := fits_value.trans rfl
  exact fits_token_iff.2 ⟨rfl, .cons ⟨rfl, hline⟩ (.cons ⟨rfl, fits_optionalText file⟩ h)⟩

theorem parts_ofFields :
    (ofFields shape kind line file fields).parts
      = ofFields shape kind line file fields :: value (.int line) :: optionalText file
        :: fields.flatMap fun f => f.2.parts := by
  rw [ofFields, parts_token]
  rfl

end Record

open Record

theorem ContentToken.allFrozen_record (t : ContentToken) : (t.record file).allFrozen := by
  simp [ContentToken.record, ofFields, Record.text]

theorem Token.allFrozen_record (t : Token) : (t.record file).allFrozen := by
  obtain ⟨kind, line, body⟩ := t
  cases body <;>
    simp [Token.record, ofFields, Record.text, optionalText, ContentToken.allFrozen_record]

theorem ContentToken.fits_record (t : ContentToken) : (t.record file).fits .token :=
  fits_ofFields (.cons ⟨rfl, fits_text t.value⟩ .nil)

theorem Token.fits_record (h : ∀ f, t.body = .helper f → DistinctKeys f.attributes) :
    (t.record file).fits .token := by
  obtain ⟨kind, line, body⟩ := t
  cases body with
  | property value =>
    rw [Token.record]
    exact fits_ofFields (.cons ⟨rfl, fits_optionalText value⟩ .nil)
  | node n =>
    rw [Token.record]
    refine fits_ofFields ?_
    simp [FieldsFit, Shape.ownTypes, Json.fits, Json.isText]
  | helper f =>
    have hattributes : (value (.obj (f.attributes.map fun e => (e.1, Json.str e.2)))).fits
        .textMap := by
      have hkeys := (distinctKeys_map Json.str).2 (h f rfl)
      rw [fits_value]
      simp [Json.fits, Json.isText, hkeys]
    rw [Token.record]
    exact fits_ofFields (.cons ⟨rfl, fits_text f.id⟩ (.cons ⟨rfl, fits_text f.path⟩
      (.cons ⟨rfl, fits_text f.base⟩ (.cons ⟨rfl, fits_text f.uri⟩
        (.cons ⟨rfl, hattributes⟩ (.cons ⟨rfl, fits_optionalText f.value⟩ .nil))))))
  | site e =>
    have hcontent : (stream true (.str e.source) (e.content.map (ContentToken.record file))).fits
        .optionalStream := by
      refine fits_stream_iff.2 ⟨rfl, rfl, fun t ht => ?_⟩
      obtain ⟨c, -, rfl⟩ := List.mem_map.1 ht
      exact c.fits_record
    rw [Token.record]
    refine fits_ofFields ?_
    simp [FieldsFit, Shape.ownTypes, hcontent]

namespace Record

theorem forall_parts_ofFields :
    (∀ p ∈ (ofFields shape kind line file fields).parts, p.misleads = false) ↔
      (ofFields shape kind line file fields).misleads = false
        ∧ ∀ f ∈ fields, ∀ p ∈ f.2.parts, p.misleads = false := by
  simp only [parts_ofFields, List.forall_mem_cons, optionalText, misleads_value, true_and,
    List.forall_mem_flatMap]

theorem forall_parts_value {j : Json} : ∀ p ∈ (value j).parts, p.misleads = false := by
  simp [misleads_value]

end Record

theorem ContentToken.misleads_record (t : ContentToken) :
    ∀ p ∈ (t.record file).parts, p.misleads = false := by
  rw [ContentToken.record, forall_parts_ofFields]
  exact ⟨rfl, List.forall_mem_singleton.2 forall_parts_value⟩

/-- Among the records of a token, only a helper itself can mislead. -/
theorem Token.misleads_iff :
    (∀ p ∈ (t.record file).parts, p.misleads = false) ↔
      ∀ f ∈ t.helper?, lookupKey shapeKey f.attributes ≠ some streamShape := by
  obtain ⟨kind, line, body⟩ := t
  cases body with
  | helper f =>
    have hattributes : ((⟨kind, line, .helper f⟩ : Token).record file).attributes
        = f.attributes.map fun e => (e.1, Json.str e.2) := rfl
    have hself : ((⟨kind, line, .helper f⟩ : Token).record file).misleads = false
        ↔ lookupKey shapeKey f.attributes ≠ some streamShape := by
      rw [← Bool.not_eq_true, Record.misleads_iff, hattributes, lookupKey_map]
      cases lookupKey shapeKey f.attributes <;> simp
    have hfields : (∀ p ∈ ((⟨kind, line, .helper f⟩ : Token).record file).parts,
        p.misleads = false) ↔ ((⟨kind, line, .helper f⟩ : Token).record file).misleads = false := by
      rw [Token.record, forall_parts_ofFields]
      exact and_iff_left (by simp [Record.text, optionalText, misleads_value])
    rw [hfields, hself]
    simp [Token.helper?]
  | property value =>
    refine iff_of_true ?_ (fun _ h => nomatch h)
    rw [Token.record, forall_parts_ofFields]
    exact ⟨rfl, List.forall_mem_singleton.2 forall_parts_value⟩
  | node n =>
    refine iff_of_true ?_ (fun _ h => nomatch h)
    rw [Token.record, forall_parts_ofFields]
    refine ⟨rfl, ?_⟩
    simp [Record.text, optionalText, misleads_value]
  | site e =>
    refine iff_of_true ?_ (fun _ h => nomatch h)
    rw [Token.record, forall_parts_ofFields]
    have hcontent : ∀ p ∈ (stream true (.str e.source)
        (e.content.map (ContentToken.record file))).parts, p.misleads = false := by
      rw [parts_stream, List.forall_mem_cons, List.forall_mem_flatMap, List.forall_mem_map]
      exact ⟨rfl, fun c _ => c.misleads_record⟩
    refine ⟨rfl, ?_⟩
    simp only [List.forall_mem_cons, Record.text, optionalText]
    exact ⟨forall_parts_value, forall_parts_value, forall_parts_value, hcontent,
      fun _ h => nomatch h⟩

theorem distinctKeys_plainAttributes (uris : List String) (tags : List Markup.Tag)
    (tag : Markup.Tag) : DistinctKeys (Working.plainAttributes uris tags tag) := by
  have hfold : ∀ (attributes : List Markup.Attribute) (entries : List (String × String)),
      DistinctKeys entries → DistinctKeys (attributes.foldl (fun entries a =>
        putKey (Markup.qualifiedName tags a.name.uri a.name.base) a.plainValue entries) entries) := by
    intro attributes
    induction attributes with
    | nil => exact fun _ h => h
    | cons a attributes ih => exact fun _ h => ih _ (distinctKeys_putKey h)
  exact hfold _ [] distinctKeys_nil

theorem Pass.Tells.distinctKeys {p : Pass} {root : Markup.Element} {f : HelperFields}
    (h : p.Tells root t) (hf : t.body = .helper f) : DistinctKeys f.attributes := by
  cases h with
  | node mem => cases hf
  | elementHelper mem name =>
    cases hf
    exact distinctKeys_plainAttributes _ _ _
  | attributeHelper mem own =>
    cases hf
    exact distinctKeys_nil
  | @site s w t site gives =>
    have houtline := congrArg Token.body (Pass.outline_siteToken gives)
    rw [Token.outline, hf] at houtline
    cases s <;> cases houtline

theorem lexSource_ok {policy : Policy} {source : Source} {s : LexedStream}
    (h : (lexSource policy source file).run.1 = .ok s) :
    ∃ d, source.load file = .ok d ∧ (Document.lex policy d file).run.1 = .ok s := by
  obtain ⟨log, h⟩ := Logged.run_ok h
  obtain ⟨d, mid, hload, h⟩ := Logged.bind_ok h
  obtain ⟨hdocument, rfl⟩ := Logged.ofExcept_ok hload
  exact ⟨d, hdocument, Logged.run_of_ok h⟩

namespace TokenStream

variable {policy : Policy} {source : Source} {s : LexedStream}

theorem fits_lexedRecord (h : (lexSource policy source file).run.1 = .ok s) :
    (s.lexedRecord file).fits .optionalStream := by
  obtain ⟨d, -, hlex⟩ := lexSource_ok h
  obtain ⟨p, -, htells⟩ := Document.lex_tells hlex
  refine fits_stream_iff.2 ⟨rfl, rfl, fun r hr => ?_⟩
  obtain ⟨t, ht, rfl⟩ := List.mem_map.1 hr
  refine Token.fits_record fun f hf => ?_
  rcases htells t ht with rfl | rfl | htell
  · cases hf
  · cases hf
  · exact htell.distinctKeys hf

theorem allFrozen_lexedRecord (h : (lexSource policy source file).run.1 = .ok s) :
    (s.lexedRecord file).allFrozen := by
  obtain ⟨d, -, hlex⟩ := lexSource_ok h
  obtain ⟨p, blocks, -, -, -, rfl⟩ := Document.lex_ok hlex
  rw [lexedRecord, allFrozen_stream, Bool.and_eq_true, List.all_map, List.all_eq_true]
  exact ⟨rfl, fun t _ => t.allFrozen_record⟩

/-- What is lexed is always written, and its text gives it back where no helper has the plain
attribute by which a stream is told. -/
theorem lexSource_fromJson (h : (lexSource policy source file).run.1 = .ok s)
    (indent : Option Int) :
    ∃ text, (s.lexedRecord file).toJson indent = .ok text
      ∧ ((∃ back, fromJson text = .ok back ∧ back.IsCopyOf (s.lexedRecord file)) ↔
        ∀ f ∈ s.toList.filterMap Token.helper?,
          lookupKey shapeKey f.attributes ≠ some streamShape) := by
  have hfits := fits_lexedRecord h
  have hfrozen := allFrozen_lexedRecord h
  refine ⟨(s.lexedRecord file).written.text (.indented indent), ?_, ?_⟩
  · rw [Record.toJson_eq, if_pos hfrozen]
  · rw [lexedRecord] at hfits hfrozen ⊢
    rw [exists_copy_iff hfits hfrozen, parts_stream, List.forall_mem_cons, List.forall_mem_flatMap,
      List.forall_mem_map]
    simp only [Token.misleads_iff, List.mem_filterMap]
    constructor
    · rintro ⟨-, h⟩ f ⟨t, ht, hf⟩
      exact h t ht f hf
    · exact fun h => ⟨rfl, fun t ht f hf => h f ⟨t, ht, hf⟩⟩

/-- A source with a helper that has plain attributes. -/
def sourceOfHelper : Source :=
  .text "<r><x:h xmlns:x=\"urn:x\" _type=\"NodeToken\" b=\"\x7b% a %\x7d\"/></r>"

theorem lexSource_fromJson_sample :
    ∃ s text back, (lexSource .standard sourceOfHelper none).run.1 = .ok s
      ∧ (s.lexedRecord none).toJson (some 2) = .ok text ∧ fromJson text = .ok back
      ∧ back.IsCopyOf (s.lexedRecord none) := by
  have hlexes : (lexSource .standard sourceOfHelper none).run.1.toOption.any (fun s =>
      (s.toList.filterMap Token.helper?).all fun f =>
        lookupKey shapeKey f.attributes != some streamShape) = true := by
    decide +kernel
  obtain ⟨s, h, hplain⟩ := Except.exists_of_any hlexes
  obtain ⟨text, htext, hcopy⟩ := lexSource_fromJson h (some 2)
  obtain ⟨back, hback, hsame⟩ := hcopy.2 fun f hf => bne_iff_ne.1 (List.all_eq_true.1 hplain f hf)
  exact ⟨s, text, back, h, htext, hback, hsame⟩

/-- A source with a helper whose attribute says that it is a stream. -/
def sourceOfMisleading : Source := .text "<x:h xmlns:x=\"urn:x\" _type=\"TokenStream\"/>"

/-- The text of what is lexed there does not give it back. -/
theorem lexSource_fromJson_misleading :
    ∃ s text, (lexSource .standard sourceOfMisleading none).run.1 = .ok s
      ∧ (s.lexedRecord none).toJson none = .ok text
      ∧ ¬ ∃ back, fromJson text = .ok back ∧ back.IsCopyOf (s.lexedRecord none) := by
  have hmisleads : (lexSource .standard sourceOfMisleading none).run.1.toOption.any (fun s =>
      (s.lexedRecord none).parts.any misleads) = true := by
    decide +kernel
  obtain ⟨s, h, hany⟩ := Except.exists_of_any hmisleads
  have hfits := fits_lexedRecord h
  have hfrozen := allFrozen_lexedRecord h
  obtain ⟨t, ht, hself⟩ := List.any_eq_true.1 hany
  refine ⟨s, _, h, Record.toJson_eq.trans (if_pos hfrozen), fun hcopy => ?_⟩
  have hplain := (exists_copy_iff hfits hfrozen).1 hcopy t ht
  rw [hself] at hplain
  cases hplain

end TokenStream

end TemplateLexer
