import TemplateLexer.Proofs.TextLimits
/-!
What becomes of the texts that are read as streams. A stream that comes out is frozen, at its start,
and its tokens are told by the value in the text; a text that is settled gives tokens on all levels
or is refused.
-/

set_option autoImplicit false

namespace TemplateLexer

namespace Record

variable {r : Record} {j : Json} {shape : Shape} {kind : TokenKind}
  {fields : List (String × Record)} {P : Json → Prop} {room : Room}

section Levels

def isToken : Record → Bool
  | token _ _ _ => true
  | _ => false

/-- Whether the streams on all levels hold nothing but tokens. -/
def HoldsTokens (r : Record) : Prop :=
  ∀ p ∈ r.parts, ∀ frozen source tokens, p = stream frozen source tokens →
    ∀ t ∈ tokens, t.isToken = true

variable {frozen : Bool} {source : Json} {tokens : List Record}

theorem holdsTokens_value : (value j).HoldsTokens := by
  intro p hp frozen source tokens heq
  rw [parts_value, List.mem_singleton] at hp
  rw [hp] at heq
  cases heq

theorem holdsTokens_token :
    (token shape kind fields).HoldsTokens ↔ ∀ g ∈ fields, g.2.HoldsTokens := by
  rw [HoldsTokens, parts_token, List.forall_mem_cons]
  constructor
  · exact fun h g hg p hp => h.2 p (List.mem_flatMap.2 ⟨g, hg, hp⟩)
  · refine fun h => ⟨fun _ _ _ heq => (by cases heq), fun p hp => ?_⟩
    obtain ⟨g, hg, hp⟩ := List.mem_flatMap.1 hp
    exact h g hg p hp

theorem holdsTokens_stream :
    (stream frozen source tokens).HoldsTokens
      ↔ ∀ t ∈ tokens, t.isToken = true ∧ t.HoldsTokens := by
  rw [HoldsTokens, parts_stream, List.forall_mem_cons]
  constructor
  · exact fun h t ht => ⟨h.1 _ _ _ rfl t ht, fun p hp => h.2 p (List.mem_flatMap.2 ⟨t, ht, hp⟩)⟩
  · refine fun h => ⟨fun frozen source tokens heq t ht => ?_, fun p hp => ?_⟩
    · cases heq
      exact (h t ht).1
    · obtain ⟨t, ht, hp⟩ := List.mem_flatMap.1 hp
      exact (h t ht).2 p hp

theorem isStream_of_read {source : Json} {tokens : List Record} (hj : j.IsKeyed)
    (h : read room j = .ok (stream true source tokens)) : isStream j := by
  cases (exists_read_iff hj).1 ⟨_, h⟩ with
  | bare _ hshape => exact isStream_obj.2 hshape
  | stream _ hshape => exact isStream_obj.2 hshape
  | token hroom hshape =>
    obtain ⟨_, _, heq, -⟩ := exists_token_of_fields hroom (Json.isKeyed_obj_iff.1 hj).1 hshape h
    cases heq

theorem isToken_of_read (hj : j.IsKeyed) (h : read room j = .ok r) :
    r.isToken = true ↔ ¬ isStream j := by
  constructor
  · intro htoken hstream
    obtain ⟨source, tokens, rfl⟩ := exists_stream_of_read hstream h
    cases htoken
  · intro hnot
    rcases exists_of_read h with ⟨shape, kind, fields, rfl⟩ | ⟨source, tokens, rfl⟩
    · rfl
    · exact absurd (isStream_of_read hj h) hnot

/-- A property that values have, and streams and tokens from what is inside, holds of all that is
read. -/
theorem of_read {Q : Record → Prop} (hvalue : ∀ j, Q (value j))
    (hstream : ∀ source tokens,
      (∀ t ∈ tokens, Q t ∧ ∃ inner i, i.IsKeyed ∧ P i ∧ read inner i = .ok t) →
        Q (stream true source tokens))
    (htoken : ∀ shape kind fields, (∀ g ∈ fields, Q g.2) → Q (token shape kind fields))
    (h : IsRecord P room j) (hj : j.IsKeyed) (hr : read room j = .ok r) : Q r := by
  induction h generalizing r with
  | bare hroom hshape htokens =>
    rw [read_stream_items hroom hshape, readItems_of_mem htokens] at hr
    cases hr
    exact hstream _ _ fun t ht => by cases ht
  | stream hroom hshape htokens hitems _ ih =>
    have hkeyed := Json.isKeyed_arr_iff.1 (hj.of_lookupKey htokens)
    obtain ⟨source, tokens, rfl, hread⟩ := exists_stream_of_items hroom hshape htokens hr
    refine hstream source tokens fun t ht => ?_
    obtain ⟨i, hi, hit⟩ := exists_of_forall₂ hread ht
    exact ⟨ih i hi (hkeyed i hi) hit, _, i, hkeyed i hi, hitems i hi, hit⟩
  | token hroom hshape _ _ _ ih =>
    obtain ⟨kind, fields, rfl, hread⟩ :=
      exists_token_of_fields hroom (Json.isKeyed_obj_iff.1 hj).1 hshape hr
    refine htoken _ kind fields fun g hg => ?_
    obtain ⟨d, hd, hdg⟩ := exists_of_forall₂ hread hg
    rcases readField_ok hdg with ⟨i, hi⟩ | ⟨i, hlookup, hstream, hig⟩
    · rw [hi]
      exact hvalue i
    · exact ih _ (List.mem_map_of_mem hd) i hlookup hstream (hj.of_lookupKey hlookup) hig

theorem allFrozen_of_read (hj : j.IsKeyed) (hr : read room j = .ok r) : r.allFrozen = true := by
  have hrecord := (exists_read_iff hj).1 ⟨r, hr⟩
  refine of_read (Q := fun r => r.allFrozen = true) (fun j => allFrozen_value)
    (fun source tokens h => ?_) (fun shape kind fields h => ?_) hrecord hj hr
  · rw [allFrozen_stream, Bool.true_and, List.all_eq_true]
    exact fun t ht => (h t ht).1
  · rw [allFrozen_token, List.all_eq_true]
    exact h

/-- What is read holds nothing but tokens where no item of a list of tokens is written as a
stream. -/
theorem holdsTokens_iff (hj : j.IsKeyed) (hr : read room j = .ok r) :
    r.HoldsTokens ↔ IsRecord (fun i => ¬ isStream i) room j := by
  constructor
  · intro hholds
    have hrecord := (exists_read_iff hj).1 ⟨r, hr⟩
    induction hrecord generalizing r with
    | bare hroom hshape htokens => exact .bare hroom hshape htokens
    | @stream room inner entries items hroom hshape htokens _ _ ih =>
      have hkeyed := Json.isKeyed_arr_iff.1 (hj.of_lookupKey htokens)
      obtain ⟨source, tokens, rfl, hread⟩ := exists_stream_of_items hroom hshape htokens hr
      have hitem : ∀ i ∈ items, ¬ isStream i ∧ IsRecord (fun i => ¬ isStream i) inner i := by
        intro i hi
        obtain ⟨t, ht, hit⟩ := exists_of_forall₂ hread.flip hi
        obtain ⟨htoken, hinside⟩ := holdsTokens_stream.1 hholds t ht
        exact ⟨(isToken_of_read (hkeyed i hi) hit).1 htoken, ih i hi (hkeyed i hi) hit hinside⟩
      exact .stream hroom hshape htokens (fun i hi => (hitem i hi).1) fun i hi => (hitem i hi).2
    | token hroom hshape hkind hline _ ih =>
      obtain ⟨kind, fields, rfl, hread⟩ :=
        exists_token_of_fields hroom (Json.isKeyed_obj_iff.1 hj).1 hshape hr
      refine .token hroom hshape hkind hline fun key hkey i hlookup hstream => ?_
      obtain ⟨d, hd, rfl⟩ := List.mem_map.1 hkey
      obtain ⟨g, hg, hdg⟩ := exists_of_forall₂ hread.flip hd
      have hig := read_of_readField hlookup hstream hdg
      have hinside := holdsTokens_token.1 hholds g hg
      exact ih _ hkey i hlookup hstream (hj.of_lookupKey hlookup) hig hinside
  · refine fun hrecord => of_read (fun j => holdsTokens_value) (fun source tokens h => ?_)
      (fun shape kind fields h => holdsTokens_token.2 h) hrecord hj hr
    refine holdsTokens_stream.2 fun t ht => ?_
    obtain ⟨hinside, _, i, hkeyed, hi, hit⟩ := h t ht
    exact ⟨(isToken_of_read hkeyed hit).2 hi, hinside⟩

end Levels

end Record

namespace Record

/-- Texts from which no stream is read: they are no JSON, their value fails, or it is a token. -/
inductive TextFails (limits : Limits) (text : String) : Failure → Prop
  | noJson {fault : Json.Fault} (h : Json.readWithin limits.values text = .error fault) :
    TextFails limits text fault.failure
  | value {j : Json} {f : Failure} (hj : Json.readWithin limits.values text = .ok j)
    (h : Fails limits.records j f) : TextFails limits text f
  | token {j : Json} {shape : Shape} (hj : Json.readWithin limits.values text = .ok j)
    (hshape : j.get? shapeKey = some (.str shape.name))
    (h : IsRecord (fun _ => True) limits.records j) :
    TextFails limits text (.badRecord (.notStream shape.name))

variable {limits : Limits} {text : String} {j : Json} {r : Record} {f : Failure} {room : Room}

section Texts

theorem shape_of_read_token {shape : Shape} {kind : TokenKind} {fields : List (String × Record)}
    (hj : j.IsKeyed) (h : read room j = .ok (token shape kind fields)) :
    j.get? shapeKey = some (.str shape.name) := by
  have hnot : ¬ isStream j := (isToken_of_read hj h).1 rfl
  cases (exists_read_iff hj).1 ⟨_, h⟩ with
  | bare _ hshape => exact absurd (isStream_obj.2 hshape) hnot
  | stream _ hshape => exact absurd (isStream_obj.2 hshape) hnot
  | token hroom hshape =>
    obtain ⟨kind', fields', heq, -⟩ :=
      exists_token_of_fields hroom (Json.isKeyed_obj_iff.1 hj).1 hshape h
    cases heq
    exact hshape

theorem readText_cases (limits : Limits) (text : String) :
    (∃ j r, Json.readWithin limits.values text = .ok j ∧ read limits.records j = .ok r
        ∧ isStream j ∧ readText limits text = .ok r)
      ∨ ∃ f, TextFails limits text f ∧ readText limits text = .error f := by
  rw [readText]
  cases hjson : Json.readWithin limits.values text with
  | error fault => exact .inr ⟨_, .noJson hjson, rfl⟩
  | ok j =>
    have hkeyed := Json.isKeyed_readWithin hjson
    dsimp only
    cases hread : read limits.records j with
    | error f => exact .inr ⟨f, .value hjson ((read_eq_error_iff hkeyed).1 hread), rfl⟩
    | ok r =>
      rcases exists_of_read hread with ⟨shape, kind, fields, rfl⟩ | ⟨source, tokens, rfl⟩
      · have hrecord := (exists_read_iff hkeyed).1 ⟨_, hread⟩
        exact .inr ⟨_, .token hjson (shape_of_read_token hkeyed hread) hrecord, rfl⟩
      · exact .inl ⟨j, _, rfl, hread, isStream_of_read hkeyed hread, rfl⟩

theorem TextFails.eq (h : TextFails limits text f) : readText limits text = .error f := by
  cases h with
  | noJson h => rw [readText, h]
  | value hj h =>
    rw [readText, hj]
    simp only [h.read_eq (Json.isKeyed_readWithin hj)]
    rfl
  | @token j shape hj hshape h =>
    have hkeyed := Json.isKeyed_readWithin hj
    obtain ⟨r, hr⟩ := h.exists_read hkeyed
    rw [readText, hj]
    simp only [hr]
    rcases exists_of_read hr with ⟨shape', kind, fields, rfl⟩ | ⟨source, tokens, rfl⟩
    · have hname := shape_of_read_token hkeyed hr
      rw [hshape] at hname
      cases Shape.name_inj (Json.str.inj (Option.some.inj hname))
      rfl
    · obtain ⟨entries, rfl⟩ := exists_obj_of_isStream (isStream_of_read hkeyed hr)
      have hstream := isStream_obj.1 (isStream_of_read hkeyed hr)
      rw [Json.get?, hstream] at hshape
      exact absurd (Json.str.inj (Option.some.inj hshape)).symm shape.name_ne

theorem readText_free_or (limits : Limits) (text : String) :
    readText limits text = readText .free text ∨ readText limits text = .error .badValue
      ∨ readText limits text = .error .tooDeep := by
  have hjson := Json.isCurtailed_readWithin limits.values text
  rw [readText, readText]
  cases hread : Json.readWithin limits.values text with
  | error e =>
    rw [hread] at hjson
    rcases hjson with heq | heq | heq
    · exact .inl (by rw [show Limits.free.values = .free from rfl, ← heq])
    · cases heq
      exact .inr (.inl rfl)
    · cases heq
      exact .inr (.inr rfl)
  | ok j =>
    rw [hread] at hjson
    rw [show Limits.free.values = .free from rfl, hjson.eq_of_ok]
    rcases read_endless_or (Json.isKeyed_readWithin hread) limits.records with heq | heq
    · exact .inl (by simp only [heq, Limits.free])
    · exact .inr (.inr (by simp only [heq]; rfl))

/-- A text goes too deep only where it opens as many brackets as there is room for. -/
theorem TextFails.exists_levels (h : TextFails limits text f) (hf : f = .tooDeep) :
    ∃ n, (limits.values.room = .levels n ∨ limits.records = .levels n)
      ∧ n ≤ Json.openings text.toList := by
  cases h with
  | @noJson fault hjson =>
    cases fault with
    | illFormed | tooLong => cases hf
    | tooDeep =>
      obtain ⟨n, hroom, hn⟩ := Json.isBelow_of_readWithin hjson
      exact ⟨n, .inl hroom, hn.le⟩
  | value hj h =>
    obtain ⟨n, hroom, hn⟩ := h.exists_levels hf
    exact ⟨n, .inr hroom, hn.trans (Json.containers_le_of_readWithin hj)⟩
  | token => cases hf

theorem TextFails.refused_or (h : TextFails limits text f) :
    f.isRefusal = true ∨ f = .notAnObject ∨ f = .badType ∨ f = .tooDeep := by
  cases h with
  | @noJson fault =>
    cases fault with
    | illFormed | tooLong => exact .inl rfl
    | tooDeep => exact .inr (.inr (.inr rfl))
  | value _ h => exact h.refused_or
  | token => exact .inl rfl

end Texts

end Record

namespace TokenStream

/-- Whether a text gives a frozen stream at its start with nothing but tokens on all levels, or is
refused. -/
def IsSettled (limits : Record.Limits) (text : String) : Prop :=
  (∃ s, fromJsonWithin limits text = .ok s ∧ s.isFrozen = true ∧ s.taken = 0
      ∧ s.record.HoldsTokens)
    ∨ ∃ f, fromJsonWithin limits text = .error f ∧ f.isRefusal = true

section Texts

variable {limits : Record.Limits} {text : String} {f : Failure}

theorem fromJson_cases (limits : Record.Limits) (text : String) :
    (∃ j r, Json.readWithin limits.values text = .ok j ∧ Record.read limits.records j = .ok r
        ∧ Record.isStream j ∧ ∃ s, fromJsonWithin limits text = .ok s ∧ s.record = r
          ∧ s.isFrozen = true ∧ s.taken = 0)
      ∨ ∃ f, Record.TextFails limits text f ∧ fromJsonWithin limits text = .error f := by
  rcases Record.readText_cases limits text with ⟨j, r, hjson, hread, hstream, h⟩ | ⟨f, hf, h⟩
  · obtain ⟨source, tokens, rfl⟩ := Record.exists_stream_of_readText h
    refine .inl ⟨j, _, hjson, hread, hstream, ofList source tokens, ?_, rfl, rfl, rfl⟩
    rw [fromJsonWithin, h]
    rfl
  · refine .inr ⟨f, hf, ?_⟩
    rw [fromJsonWithin, h]
    rfl

theorem fromJson_eq_error_iff :
    fromJsonWithin limits text = .error f ↔ Record.TextFails limits text f := by
  constructor
  · intro h
    rcases fromJson_cases limits text with ⟨_, _, -, -, -, s, hs, -⟩ | ⟨g, hg, hfail⟩
    · rw [hs] at h
      cases h
    · rw [hfail] at h
      cases h
      exact hg
  · intro h
    rw [fromJsonWithin, h.eq]
    rfl

theorem exists_fromJson_iff :
    (∃ s, fromJsonWithin limits text = .ok s) ↔
      ∃ j, Json.readWithin limits.values text = .ok j ∧ Record.isStream j
        ∧ Record.IsRecord (fun _ => True) limits.records j := by
  constructor
  · rintro ⟨s, hs⟩
    rcases fromJson_cases limits text with ⟨j, r, hjson, hread, hstream, -⟩ | ⟨f, -, hfail⟩
    · have hkeyed := Json.isKeyed_readWithin hjson
      exact ⟨j, hjson, hstream, (Record.exists_read_iff hkeyed).1 ⟨r, hread⟩⟩
    · rw [hs] at hfail
      cases hfail
  · rintro ⟨j, hjson, hstream, hrecord⟩
    obtain ⟨r, hread⟩ := hrecord.exists_read (Json.isKeyed_readWithin hjson)
    obtain ⟨source, tokens, rfl⟩ := Record.exists_stream_of_read hstream hread
    refine ⟨ofList source tokens, ?_⟩
    rw [fromJsonWithin, Record.readText, hjson]
    simp only [hread]
    rfl

/-- Where reading is bound, a text that starts with too many brackets goes too deep. -/
theorem fromJson_of_brackets {n : Nat} (h : limits.values.room = .levels n)
    (hfront : List.replicate (n + 1) '[' <+: text.toList) :
    fromJsonWithin limits text = .error .tooDeep := by
  obtain ⟨rest, hrest⟩ := hfront
  have hskip : Json.skipBlanks (List.replicate (n + 1) '[' ++ rest)
      = List.replicate (n + 1) '[' ++ rest := by
    rw [List.replicate_succ, List.cons_append, Json.skipBlanks,
      List.dropWhile_cons_of_neg (by decide)]
  have hfuel : 2 * n < 2 * (List.replicate (n + 1) '[' ++ rest).length + 2 := by
    rw [List.length_append, List.length_replicate]
    omega
  have hvalue := @Json.valueFrom_brackets rest _ _ _ h hfuel
  have hread : Json.readWithin limits.values text = .error .tooDeep := by
    simp only [Json.readWithin, ← hrest, hskip, hvalue]
  rw [fromJsonWithin, Record.readText, hread]
  rfl

/-- Where a stream comes out, the value that it is read from. -/
theorem exists_read_of_fromJson {s : RecordStream} (h : fromJsonWithin limits text = .ok s) :
    ∃ j, Json.readWithin limits.values text = .ok j ∧ Record.read limits.records j = .ok s.record
      ∧ s.isFrozen = true ∧ s.taken = 0 := by
  rcases fromJson_cases limits text with
    ⟨j, r, hjson, hread, -, t, ht, rfl, hfrozen, hstart⟩ | ⟨f, -, hf⟩
  · rw [h] at ht
    cases ht
    exact ⟨j, hjson, hread, hfrozen, hstart⟩
  · rw [h] at hf
    cases hf

theorem holdsTokens_iff_of_fromJson {s : RecordStream} {j : Json}
    (h : fromJsonWithin limits text = .ok s) (hj : Json.readWithin limits.values text = .ok j) :
    s.record.HoldsTokens ↔ Record.IsRecord (fun i => ¬ Record.isStream i) limits.records j := by
  obtain ⟨_, hjson, hread, -⟩ := exists_read_of_fromJson h
  cases hj.symm.trans hjson
  exact Record.holdsTokens_iff (Json.isKeyed_readWithin hj) hread

/-- The texts that are settled: there is room for all their values, their first fault, if there is
one, is refused, and no stream stands in a list of tokens. -/
theorem isSettled_iff :
    IsSettled limits text ↔
      Json.readWithin limits.values text ≠ .error .tooDeep
        ∧ ∀ j, Json.readWithin limits.values text = .ok j →
          (∀ f, Record.Fails limits.records j f → f.isRefusal = true)
            ∧ (Record.isStream j → Record.IsRecord (fun _ => True) limits.records j →
              Record.IsRecord (fun i => ¬ Record.isStream i) limits.records j) := by
  constructor
  · rintro (⟨s, hs, -, -, hholds⟩ | ⟨f, hf, hrefusal⟩)
    · obtain ⟨i, hi, -⟩ := exists_read_of_fromJson hs
      refine ⟨fun hdeep => by simp [hdeep] at hi, fun j hj => ⟨fun f hfails => ?_, fun _ _ => ?_⟩⟩
      · rw [fromJson_eq_error_iff.2 (.value hj hfails)] at hs
        cases hs
      · exact (holdsTokens_iff_of_fromJson hs hj).1 hholds
    · refine ⟨fun hdeep => ?_, fun j hj => ⟨fun g hfails => ?_, fun hstream hrecord => ?_⟩⟩
      · rw [fromJson_eq_error_iff.2 (.noJson hdeep)] at hf
        cases hf
        cases hrefusal
      · rw [fromJson_eq_error_iff.2 (.value hj hfails)] at hf
        cases hf
        exact hrefusal
      · obtain ⟨s, hs⟩ := exists_fromJson_iff.2 ⟨j, hj, hstream, hrecord⟩
        rw [hs] at hf
        cases hf
  · rintro ⟨hroom, h⟩
    rcases fromJson_cases limits text with
      ⟨j, r, hjson, hread, hstream, s, hs, -, hfrozen, hstart⟩ | ⟨f, hf, hfail⟩
    · have hany := (Record.exists_read_iff (Json.isKeyed_readWithin hjson)).1 ⟨r, hread⟩
      have hrecord := (h j hjson).2 hstream hany
      exact .inl ⟨s, hs, hfrozen, hstart, (holdsTokens_iff_of_fromJson hs hjson).2 hrecord⟩
    · refine .inr ⟨f, hfail, ?_⟩
      cases hf with
      | @noJson fault hjson =>
        cases fault with
        | illFormed | tooLong => rfl
        | tooDeep => exact absurd hjson hroom
      | value hj hfails => exact (h _ hj).1 f hfails
      | token => rfl

end Texts

theorem fromJson_free_or (limits : Record.Limits) (text : String) :
    fromJsonWithin limits text = fromJson text ∨ fromJsonWithin limits text = .error .badValue
      ∨ fromJsonWithin limits text = .error .tooDeep := by
  rw [fromJson, fromJsonWithin, fromJsonWithin]
  rcases Record.readText_free_or limits text with h | h | h
  · exact .inl (by rw [h])
  · exact .inr (.inl (by rw [h]; rfl))
  · exact .inr (.inr (by rw [h]; rfl))

/-- What becomes of any text, within any limits. -/
theorem fromJson_outcome (limits : Record.Limits) (text : String) :
    ((∃ s, fromJsonWithin limits text = .ok s) ↔
        ∃ j, Json.readWithin limits.values text = .ok j ∧ Record.isStream j
          ∧ Record.IsRecord (fun _ => True) limits.records j)
      ∧ (∀ s, fromJsonWithin limits text = .ok s →
        s.isFrozen = true ∧ s.taken = 0 ∧ s.record.allFrozen = true
          ∧ (s.record.HoldsTokens ↔ ∀ j, Json.readWithin limits.values text = .ok j →
            Record.IsRecord (fun i => ¬ Record.isStream i) limits.records j))
      ∧ (∀ f, fromJsonWithin limits text = .error f ↔ Record.TextFails limits text f)
      ∧ (∀ f, fromJsonWithin limits text = .error f →
        f.isRefusal = true ∨ f = .notAnObject ∨ f = .badType ∨ f = .tooDeep)
      ∧ (fromJsonWithin limits text = fromJson text
        ∨ fromJsonWithin limits text = .error .badValue
        ∨ fromJsonWithin limits text = .error .tooDeep)
      ∧ (fromJsonWithin limits text = .error .tooDeep →
        ∃ n, (limits.values.room = .levels n ∨ limits.records = .levels n)
          ∧ n ≤ Json.openings text.toList)
      ∧ (∀ n, limits.values.room = .levels n → List.replicate (n + 1) '[' <+: text.toList →
        fromJsonWithin limits text = .error .tooDeep)
      ∧ (IsSettled limits text ↔
        Json.readWithin limits.values text ≠ .error .tooDeep
          ∧ ∀ j, Json.readWithin limits.values text = .ok j →
            (∀ f, Record.Fails limits.records j f → f.isRefusal = true)
              ∧ (Record.isStream j → Record.IsRecord (fun _ => True) limits.records j →
                Record.IsRecord (fun i => ¬ Record.isStream i) limits.records j)) := by
  refine ⟨exists_fromJson_iff, fun s hs => ?_, fun f => fromJson_eq_error_iff,
    fun f hf => (fromJson_eq_error_iff.1 hf).refused_or, fromJson_free_or limits text,
    fun hdeep => (fromJson_eq_error_iff.1 hdeep).exists_levels rfl,
    fun n hroom hfront => fromJson_of_brackets hroom hfront, isSettled_iff⟩
  obtain ⟨j, hjson, hread, hfrozen, hstart⟩ := exists_read_of_fromJson hs
  have hkeyed := Json.isKeyed_readWithin hjson
  refine ⟨hfrozen, hstart, Record.allFrozen_of_read hkeyed hread, ?_⟩
  constructor
  · exact fun hholds k hk => (holdsTokens_iff_of_fromJson hs hk).1 hholds
  · exact fun h => (holdsTokens_iff_of_fromJson hs hjson).2 (h j hjson)

/-- A stream with a stream in its list of tokens. -/
def nestedText : String :=
  "\x7b\"_type\": \"TokenStream\", \"tokens\": [\x7b\"_type\": \"TokenStream\"\x7d]\x7d"

/-- A stream with arrays in each other for its source. -/
def deepText (n : Nat) : String :=
  String.ofList ("\x7b\"_type\": \"TokenStream\", \"source\": ".toList
    ++ List.replicate n '[' ++ List.replicate n ']' ++ ['\x7d'])

/-- An array is neither read nor refused, a stream passes for a token of another one, and where
values are nested deeper than there is room for they are not refused as such. -/
theorem fromJson_outcome_strays : ¬ IsSettled .free "[]" ∧ ¬ IsSettled .free nestedText
    ∧ ¬ IsSettled ⟨⟨.levels 20, some 4300⟩, .levels 10⟩ (deepText 20) := by
  refine ⟨?_, ?_, ?_⟩
  · have hfails : fromJsonWithin .free "[]" = .error .notAnObject := rfl
    rintro (⟨s, hs, -⟩ | ⟨f, hf, hrefusal⟩)
    · rw [hfails] at hs
      cases hs
    · rw [hfails] at hf
      cases hf
      cases hrefusal
  · obtain ⟨s, hs, htest⟩ : ∃ s, fromJsonWithin .free nestedText = .ok s
        ∧ (s.content.2.any fun t => !t.isToken) = true :=
      Except.exists_of_any (by decide +kernel)
    obtain ⟨t, ht, hstray⟩ := List.any_eq_true.1 htest
    rintro (⟨s', hs', -, -, hholds⟩ | ⟨f, hf, -⟩)
    · rw [hs] at hs'
      cases hs'
      rw [record, Record.holdsTokens_stream] at hholds
      rw [(hholds t ht).1] at hstray
      cases hstray
    · rw [hs] at hf
      cases hf
  · have hdeep : ((fromJsonWithin ⟨⟨.levels 20, some 4300⟩, .levels 10⟩ (deepText 20)).map
        fun _ => ()).mapError Failure.isRefusal = .error false := by
      decide +kernel
    rintro (⟨s, hs, -⟩ | ⟨f, hf, hrefusal⟩)
    · rw [hs] at hdeep
      cases hdeep
    · rw [hf] at hdeep
      cases hrefusal.symm.trans (Except.error.inj hdeep)

end TokenStream

end TemplateLexer
