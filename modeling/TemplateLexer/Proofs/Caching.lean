import TemplateLexer.Proofs.RestoredRecords
/-!
Streams as JSON text. The text tells a stream whose fields have their types, with the sources on all
levels, and a stream is read back from it but for the attributes of a helper that pass for a stream.
-/

set_option autoImplicit false

namespace TemplateLexer

namespace Json.Layout

/-- The layout for a number of blanks for each level, or for one line. -/
def indented (indent : Option Int) : Layout := indent.bind fun n => blanks n.toNat

theorem isBlank_indented (indent : Option Int) : (indented indent).IsBlank := by
  cases indent with
  | none => exact isBlank_none
  | some n => exact isBlank_blanks n.toNat

end Json.Layout

open Json

variable {r s : Record} {indent : Option Int}

namespace Record

/-- The text of a record. -/
def toJson (indent : Option Int) (r : Record) : Except Failure String :=
  r.json.map (Json.text (.indented indent))

theorem toJson_eq :
    r.toJson indent = if r.allFrozen then .ok (r.written.text (.indented indent))
      else .error (.badRecord .notFrozen) := by
  rw [toJson, json_eq]
  split <;> rfl

theorem allFrozen_iff : r.allFrozen ↔ ¬ ∃ p ∈ r.parts, p.isOpen := by
  simp [allFrozen]

/-- The text of a stream is read like its written form. -/
theorem readText_written {frozen : Bool} {text : String} {tokens : List Record}
    (h : (stream frozen (.str text) tokens).fits .optionalStream) (indent : Option Int) :
    readText .free ((stream frozen (.str text) tokens).written.text (.indented indent))
      = read .endless (stream frozen (.str text) tokens).written.sorted := by
  simp only [readText, Limits.free,
    (isPlain_written h).readWithin_text (Layout.isBlank_indented indent)]
  cases hread : read .endless (stream frozen (.str text) tokens).written.sorted with
  | error f => rfl
  | ok r =>
    rw [read_written_stream] at hread
    obtain ⟨ts, -, rfl⟩ := Except.map_eq_ok_iff.1 hread
    rfl

/-- Records of one type have the same text where they are the same, with the same sources. -/
theorem text_written_eq_iff {type : RecordType} (hr : r.fits type) (hs : s.fits type)
    (hrf : r.allFrozen) (hsf : s.allFrozen) :
    r.written.text (.indented indent) = s.written.text (.indented indent)
      ↔ r.same s ∧ r.sources = s.sources := by
  rw [(isPlain_written hr).text_eq_iff (isPlain_written hs) (Layout.isBlank_indented indent),
    sorted_written_eq_iff hr hs hrf hsf]

theorem exists_stream_of_readText {limits : Limits} {text : String}
    (h : readText limits text = .ok r) : ∃ source tokens, r = stream true source tokens := by
  rw [readText] at h
  split at h
  · cases h
  · obtain ⟨r', hread, h⟩ := Except.bind_ok h
    rcases exists_of_read hread with ⟨_, _, _, rfl⟩ | ⟨source, tokens, rfl⟩
    · cases h
    · cases h
      exact ⟨source, tokens, rfl⟩

end Record

namespace TokenStream

/-- Whether the source is a text and the fields of all tokens have their types. -/
def isTyped (s : RecordStream) : Bool := s.source.isText && s.content.2.all (·.fits .token)

/-- The stream of a record, at its start. -/
def ofRecord? : Record → Option RecordStream
  | .stream true source tokens => some (ofList source tokens)
  | _ => none

/-- Reads a stream from its text, within limits. -/
def fromJsonWithin (limits : Record.Limits) (text : String) : Except Failure RecordStream := do
  match ofRecord? (← Record.readText limits text) with
  | some s => .ok s
  | none => .error .badJson

def fromJson (text : String) : Except Failure RecordStream := fromJsonWithin .free text

theorem record_fromJson {text : String} :
    (fromJson text).map record = Record.readText .free text := by
  rw [fromJson, fromJsonWithin]
  cases h : Record.readText .free text with
  | error f => rfl
  | ok r =>
    obtain ⟨source, tokens, rfl⟩ := Record.exists_stream_of_readText h
    rfl

/-- Frozen streams at their start, with the tokens and sources of a record. -/
structure IsCopyOf (s : RecordStream) (r : Record) : Prop where
  frozen : s.isFrozen = true
  start : s.taken = 0
  same : s.record.same r = true
  sources : s.record.sources = r.sources

/-- The text of a frozen stream gives the stream back where no attributes pass for a stream. -/
theorem exists_copy_iff {frozen : Bool} {source : String} {tokens : List Record}
    (h : (Record.stream frozen (.str source) tokens).fits .optionalStream)
    (hfrozen : (Record.stream frozen (.str source) tokens).allFrozen) :
    (∃ s, fromJson ((Record.stream frozen (.str source) tokens).written.text (.indented indent))
        = .ok s ∧ s.IsCopyOf (.stream frozen (.str source) tokens))
      ↔ ∀ t ∈ (Record.stream frozen (.str source) tokens).parts, t.misleads = false := by
  have hread := Record.readText_written h indent
  constructor
  · rintro ⟨s, hs, hcopy⟩
    have hrecord := (record_fromJson).symm.trans (congrArg (Except.map record) hs)
    rw [hread] at hrecord
    exact Record.misleads_eq_false_of_read h hrecord hcopy.same fun _ h => by cases h
  · intro hplain
    rw [Record.read_written h (fun _ h => by cases h) hfrozen hplain] at hread
    have htrue : frozen = true := by
      rw [Record.allFrozen_stream, Bool.and_eq_true] at hfrozen
      exact hfrozen.1
    subst htrue
    refine ⟨ofList (.str source) (tokens.map Record.inOrder), ?_, rfl, rfl, ?_, ?_⟩
    · rw [fromJson, fromJsonWithin, hread, Record.inOrder, Record.tokensInOrder_eq]
      rfl
    · have hsame := Record.same_inOrder h
      rwa [Record.inOrder, Record.tokensInOrder_eq] at hsame
    · have hsources := Record.sources_inOrder (.stream true (.str source) tokens)
      rwa [Record.inOrder, Record.tokensInOrder_eq] at hsources

theorem exists_record_eq {s : RecordStream} (h : s.isTyped) :
    ∃ source, s.record = .stream s.isFrozen (.str source) s.content.2
      ∧ s.record.fits .optionalStream := by
  rw [isTyped, Bool.and_eq_true, List.all_eq_true] at h
  obtain ⟨source, hsource⟩ := exists_text h.1
  have hrecord : s.record = .stream s.isFrozen (.str source) s.content.2 := by
    rw [record, hsource]
    obtain ⟨_, _, phase, _⟩ := s
    cases phase <;> rfl
  exact ⟨source, hrecord, hrecord ▸ Record.fits_stream_iff.2 ⟨rfl, rfl, h.2⟩⟩

/-- A typed stream that holds no misleading attributes is written unless a stream in it is open, and
its text gives it back. -/
theorem fromJson_toJson (s : RecordStream) (indent : Option Int) (htyped : s.isTyped)
    (hplain : ∀ t ∈ s.record.parts, t.misleads = false) :
    (s.record.toJson indent = .error (.badRecord .notFrozen) ↔ ∃ p ∈ s.record.parts, p.isOpen)
      ∧ ((¬ ∃ p ∈ s.record.parts, p.isOpen) →
        ∃ text, s.record.toJson indent = .ok text
          ∧ ∃ back, fromJson text = .ok back ∧ back.IsCopyOf s.record) := by
  rw [Record.toJson_eq, ← Record.allFrozen_iff]
  obtain ⟨source, hrecord, hfits⟩ := exists_record_eq htyped
  constructor
  · rw [← not_iff_not, ← Record.allFrozen_iff]
    cases s.record.allFrozen <;> simp
  · intro hfrozen
    rw [hrecord] at hfits hfrozen hplain ⊢
    exact ⟨_, if_pos hfrozen, (exists_copy_iff hfits hfrozen).2 hplain⟩

/-- An expression site with two pieces. -/
def sampleSite : Record :=
  .ofFields .expression .expression 2 (some "l.xml")
    [("id", .text "i"), ("path", .text "/r/x:h"), ("attribute", .optionalText none),
      ("content", .stream true (.str "α")
        [.ofFields .content .expressionOpen 2 none [("value", .text "\x7b%")],
          .ofFields .content .expressionChars (-3) none [("value", .text " \"\\\n")]])]

def sampleHelper (attributes : List (String × Json)) : Record :=
  .ofFields .helper .elementHelper 2 none
    [("id", .text ""), ("path", .text "/r/x:h"), ("name", .text "h"), ("namespace", .text "urn:x"),
      ("attributes", .value (.obj attributes)), ("value", .optionalText none)]

/-- A stream that is read last token first, where one token was taken. -/
def sampleOfRecords : RecordStream :=
  ⟨.str "<r/>", true,
    .frozen [sampleHelper [("b", .str "😀"), ("_type", .str "NodeToken")], sampleSite], 1⟩

theorem fromJson_toJson_sample :
    sampleOfRecords.isTyped ∧ (∀ t ∈ sampleOfRecords.record.parts, t.misleads = false)
      ∧ ∃ text, sampleOfRecords.record.toJson (some 2) = .ok text
        ∧ ∃ back, fromJson text = .ok back ∧ back.IsCopyOf sampleOfRecords.record := by
  have htyped : sampleOfRecords.isTyped := by decide +kernel
  have hplain : ∀ t ∈ sampleOfRecords.record.parts, t.misleads = false := by decide +kernel
  have hfrozen : ¬ ∃ p ∈ sampleOfRecords.record.parts, p.isOpen := by decide +kernel
  exact ⟨htyped, hplain, (fromJson_toJson sampleOfRecords (some 2) htyped hplain).2 hfrozen⟩

/-- The texts of two typed frozen streams are equal where the streams are the same, with the same
sources on all levels. -/
theorem toJson_eq_iff (s t : RecordStream) (indent : Option Int) (hs : s.isTyped) (ht : t.isTyped)
    (hsf : s.record.allFrozen) (htf : t.record.allFrozen) :
    ∃ a b, s.record.toJson indent = .ok a ∧ t.record.toJson indent = .ok b
      ∧ (a = b ↔ s.same t ∧ s.record.sources = t.record.sources) := by
  obtain ⟨-, -, hsfits⟩ := exists_record_eq hs
  obtain ⟨-, -, htfits⟩ := exists_record_eq ht
  refine ⟨s.record.written.text (.indented indent), t.record.written.text (.indented indent),
    ?_, ?_, Record.text_written_eq_iff hsfits htfits hsf htf⟩
  · rw [Record.toJson_eq, if_pos hsf]
  · rw [Record.toJson_eq, if_pos htf]

theorem toJson_eq_iff_sample :
    ∃ a b, sampleOfRecords.record.toJson none = .ok a
      ∧ (ofList (.str "<r/>") [sampleHelper [("_type", .str "NodeToken"), ("b", .str "😀")],
          sampleSite] : RecordStream).record.toJson none = .ok b
      ∧ a = b := by
  obtain ⟨a, b, ha, hb, heq⟩ := toJson_eq_iff sampleOfRecords
    (ofList (.str "<r/>") [sampleHelper [("_type", .str "NodeToken"), ("b", .str "😀")], sampleSite])
    none (by decide +kernel) (by decide +kernel) (by decide +kernel) (by decide +kernel)
  exact ⟨a, b, ha, hb, heq.2 ⟨by decide +kernel, rfl⟩⟩

end TokenStream

end TemplateLexer
