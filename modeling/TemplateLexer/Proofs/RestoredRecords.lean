import TemplateLexer.Proofs.Outcome
import TemplateLexer.Proofs.TypedRecords
import TemplateLexer.Record.Reader

set_option autoImplicit false

namespace TemplateLexer

section Lists

variable {α β ε : Type} {R : α → β → Prop} {S : β → α → Prop} {f : α → Except ε β} {xs : List α}
  {ys : List β}

theorem Except.mapM_eq_of_keys {ds : List (String × α)} {fs : List (String × β)} {γ : Type}
    {F : String × α → Except ε γ} {G : String × β → Except ε γ}
    (hkeys : ds.map Prod.fst = fs.map Prod.fst)
    (h : ∀ d ∈ ds, ∀ f ∈ fs, d.1 = f.1 → F d = G f) : ds.mapM F = fs.mapM G := by
  induction ds generalizing fs with
  | nil => rw [List.map_eq_nil_iff.1 hkeys.symm, List.mapM_nil, List.mapM_nil]
  | cons d ds ih =>
    cases fs with
    | nil => cases hkeys
    | cons f fs =>
      obtain ⟨hkey, hrest⟩ := List.cons.inj hkeys
      have htail := ih hrest fun d' hd' f' hf' =>
        h d' (List.mem_cons_of_mem d hd') f' (List.mem_cons_of_mem f hf')
      rw [List.mapM_cons, List.mapM_cons, htail, h d List.mem_cons_self f List.mem_cons_self hkey]

theorem Except.bind_ok_eq_map (x : Except ε α) (g : α → β) : (do let a ← x; .ok (g a)) = x.map g := by
  cases x <;> rfl

theorem Except.map_eq_ok_iff {x : Except ε α} {g : α → β} {b : β} :
    x.map g = .ok b ↔ ∃ a, x = .ok a ∧ g a = b := by
  cases x <;> simp [Except.map]

theorem exists_of_forall₂_forall₂ (h : List.Forall₂ R xs ys) (h' : List.Forall₂ S ys xs) {x : α}
    (hx : x ∈ xs) : ∃ y, R x y ∧ S y x := by
  induction h with
  | nil => cases hx
  | cons hR _ ih =>
    obtain ⟨hS, hrest⟩ := List.forall₂_cons.1 h'
    rcases List.mem_cons.1 hx with rfl | hmem
    · exact ⟨_, hR, hS⟩
    · exact ih hrest hmem

end Lists

namespace Record

variable {r s : Record} {shape : Shape} {kind : TokenKind} {fields : List (String × Record)}
  {frozen : Bool} {source j : Json} {tokens : List Record} {type : RecordType} {key : String}
  {entries : List (String × Json)} {room inner : Room}

section Reader

theorem below?_endless : Room.endless.below? = some .endless := rfl

theorem readTokens_eq {items : List Json} : readTokens room items = items.mapM (read room) := by
  induction items with
  | nil => rw [readTokens, List.mapM_nil]; rfl
  | cons j rest ih =>
    rw [readTokens, ih, List.mapM_cons]
    rfl

theorem readTokensEntry_eq :
    readTokensEntry room entries = match lookupKey "tokens" entries with
      | some (.arr items) => some (items.mapM (read room))
      | _ => none := by
  induction entries with
  | nil => rw [readTokensEntry, lookupKey]
  | cons e rest ih =>
    obtain ⟨k, j⟩ := e
    by_cases hk : k = "tokens"
    · rw [lookupKey, if_pos hk]
      cases j <;> simp [readTokensEntry, hk, readTokens_eq]
    · rw [lookupKey, if_neg hk, ← ih]
      cases j <;> simp [readTokensEntry, hk]

theorem lookupKey_readStreams (h : DistinctKeys entries) :
    lookupKey key (readStreams room entries)
      = (lookupKey key entries).bind fun j => if isStream j then some (read room j) else none := by
  induction entries with
  | nil => rw [readStreams]; rfl
  | cons e rest ih =>
    obtain ⟨k, j⟩ := e
    obtain ⟨hnew, hrest⟩ := distinctKeys_cons.1 h
    rw [readStreams]
    by_cases hk : k = key
    · subst hk
      have hnone : lookupKey k (readStreams room rest) = none := by
        rw [ih hrest, lookupKey_eq_none.2 hnew]
        rfl
      rw [lookupKey, if_pos rfl, Option.bind_some]
      split
      · rw [lookupKey, if_pos rfl]
      · exact hnone
    · rw [lookupKey, if_neg hk, ← ih hrest]
      split
      · rw [lookupKey, if_neg hk]
      · rfl

theorem isStream_obj :
    isStream (.obj entries) ↔ lookupKey shapeKey entries = some (.str streamShape) := by
  rw [isStream, Json.get?, beq_iff_eq]
  cases lookupKey shapeKey entries with
  | none => simp
  | some j => cases j <;> simp [Json.str?]

theorem exists_obj_of_isStream (h : isStream j = true) : ∃ entries, j = .obj entries := by
  cases j with
  | obj entries => exact ⟨entries, rfl⟩
  | _ => cases h

theorem exists_below_of_read (h : read room j = .ok r) : ∃ inner, room.below? = some inner := by
  cases hroom : room.below? with
  | some inner => exact ⟨inner, rfl⟩
  | none => cases j <;> simp [read, hroom] at h

theorem read_stream (hroom : room.below? = some inner)
    (h : lookupKey shapeKey entries = some (.str streamShape)) :
    read room (.obj entries)
      = (match lookupKey "tokens" entries with
          | some (.arr items) => items.mapM (read inner)
          | other => noTokens inner other).map
        (stream true ((lookupKey "source" entries).getD (.str ""))) := by
  simp only [read, hroom, h, Json.str?, if_true, readTokensEntry_eq]
  cases lookupKey "tokens" entries with
  | none => exact Except.bind_ok_eq_map _ _
  | some j => cases j <;> exact Except.bind_ok_eq_map _ _

theorem exists_stream_of_read (hj : isStream j = true) (h : read room j = .ok r) :
    ∃ source tokens, r = stream true source tokens := by
  obtain ⟨entries, rfl⟩ := exists_obj_of_isStream hj
  obtain ⟨inner, hroom⟩ := exists_below_of_read h
  rw [read_stream hroom (isStream_obj.1 hj)] at h
  obtain ⟨tokens, -, rfl⟩ := Except.map_eq_ok_iff.1 h
  exact ⟨_, _, rfl⟩

theorem exists_token_of_readToken {streams : List (String × Except Failure Record)}
    (h : readToken shape entries streams = .ok r) :
    ∃ kind fields, r = token shape kind fields := by
  rw [readToken] at h
  split at h
  · obtain ⟨kind, -, h⟩ := Except.bind_ok h
    obtain ⟨fields, -, h⟩ := Except.bind_ok h
    split at h
    · cases h
      exact ⟨_, _, rfl⟩
    · cases h
  · obtain ⟨kind, hkind, h⟩ := Except.bind_ok h
    obtain ⟨fields, -, h⟩ := Except.bind_ok h
    cases hkind
    cases h

theorem exists_of_read (h : read room j = .ok r) :
    (∃ shape kind fields, r = token shape kind fields)
      ∨ ∃ source tokens, r = stream true source tokens := by
  by_cases hj : isStream j = true
  · exact .inr (exists_stream_of_read hj h)
  cases j with
  | obj entries =>
    obtain ⟨inner, hroom⟩ := exists_below_of_read h
    rw [isStream_obj] at hj
    simp only [read, hroom] at h
    split at h
    · cases h
    · cases h
    · rename_i name hne hname
      have hother : ¬ name.str? = some streamShape := by
        intro hs
        cases name <;> cases hs
        exact hj hname
      rw [if_neg hother] at h
      obtain ⟨shape, -, h⟩ := Except.bind_ok h
      obtain ⟨kind, fields, rfl⟩ := exists_token_of_readToken h
      exact .inl ⟨shape, kind, fields, rfl⟩
  | _ => simp [read] at h

end Reader

section Restored

theorem exists_sorted_obj (h : DistinctKeys entries) :
    ∃ es, (Json.obj entries).sorted = .obj es ∧ DistinctKeys es ∧
      ∀ key, lookupKey key es = (lookupKey key entries).map Json.sorted := by
  refine ⟨_, Json.sorted_obj, ?_, fun key => ?_⟩
  · exact (distinctKeys_map Json.sorted).2 (Json.distinctKeys_sortEntries.2 h)
  · rw [lookupKey_map, Json.lookupKey_sortEntries h]

theorem isStream_sorted (h : j.IsPlain) : isStream j.sorted = isStream j := by
  cases h with
  | @obj entries hkeys _ =>
    obtain ⟨es, heq, -, hlookup⟩ := exists_sorted_obj hkeys
    rw [heq, Bool.eq_iff_iff, isStream_obj, isStream_obj, hlookup]
    cases lookupKey shapeKey entries with
    | none => simp
    | some name => cases name <;> simp [Json.sorted]
  | _ => rfl

def restored (r : Record) : Except Failure Record :=
  if isStream r.written then read .endless r.written.sorted else .ok (value r.written.sorted)

theorem read_written_stream {text : String} :
    read .endless (stream frozen (.str text) tokens).written.sorted
      = (tokens.mapM fun t => read .endless t.written.sorted).map (stream true (.str text)) := by
  obtain ⟨es, heq, -, hlookup⟩ := exists_sorted_obj (distinctKeys_stream (Json.str streamShape)
    (.str text) (.arr (tokens.map written)))
  have hshape : lookupKey shapeKey es = some (.str streamShape) := hlookup shapeKey
  have hsource : lookupKey "source" es = some (.str text) := hlookup "source"
  have htokens : lookupKey "tokens" es = some (.arr (tokens.map fun t => t.written.sorted)) := by
    rw [hlookup]
    simp [lookupKey, shapeKey, Json.sorted_arr]
  rw [written, writtenTokens_eq, heq, read_stream below?_endless hshape, hsource,
    htokens]
  simp only [Option.getD_some, List.mapM_map]
  rfl

theorem read_kind (k : TokenKind) : TokenKind.read (.str k.name) = .ok k := by
  rw [TokenKind.read, TokenKind.named?_name]

theorem read_shape (s : Shape) : Shape.read (.str s.name) = .ok s := by
  rw [Shape.read, Shape.named?_name]

theorem read_written_token (h : FieldsFit fields shape.types) :
    read .endless (token shape kind fields).written.sorted
      = (fields.mapM fun f : String × Record => f.2.restored.map fun r => (f.1, r)).map
        (token shape kind) := by
  obtain ⟨es, heq, hkeys, hlookup⟩ := exists_sorted_obj
    (h.distinctKeys (.str shape.name) (.str kind.name) written)
  have hshape : lookupKey shapeKey es = some (.str shape.name) := hlookup shapeKey
  have hkind : lookupKey "type" es = some (.str kind.name) := hlookup "type"
  have hother : shape.name ≠ streamShape := by cases shape <;> decide
  have hfield : ∀ f ∈ fields, lookupKey f.1 es = some f.2.written.sorted := by
    intro f hf
    have hr := (lookupKey_eq_some h.distinctKeys_fields).2 hf
    rw [hlookup, h.lookupKey_written _ _ hr, Option.map_some]
  have hfields : readFields shape es (readStreams .endless es)
      = fields.mapM fun f : String × Record => f.2.restored.map fun r => (f.1, r) := by
    refine Except.mapM_eq_of_keys (shape.keys_types.symm.trans h.keys.symm) fun d _ f hf hd => ?_
    obtain ⟨type, hfits⟩ := h.fits_of_mem hf
    have hsorted := isStream_sorted (isPlain_written hfits)
    simp only [hd, lookupKey_readStreams hkeys, hfield f hf, Option.bind_some, hsorted, restored,
      Option.getD_some]
    cases isStream f.2.written <;> rfl
  have hline : ∃ n, lookupKey "lineno" es = some n := by
    have hmem : "lineno" ∈ fields.map Prod.fst := by
      rw [h.keys]
      exact List.mem_cons_self
    obtain ⟨f, hf, hkey⟩ := List.mem_map.1 hmem
    exact ⟨_, hkey ▸ hfield f hf⟩
  obtain ⟨line, hline⟩ := hline
  rw [written, writtenFields_eq, heq]
  simp only [read, below?_endless, hshape, Json.str?, Option.some.injEq, hother, if_false, read_shape]
  simp only [readToken, hkind, read_kind, hline]
  rw [← hfields]
  exact Except.bind_ok_eq_map _ _

end Restored

/-- The attributes of a helper. -/
def attributes : Record → List (String × Json)
  | token .helper _ fields =>
    match lookupKey "attributes" fields with
    | some (value (.obj entries)) => entries
    | _ => []
  | _ => []

/-- Whether the attributes of a helper pass for a stream. -/
def misleads (r : Record) : Bool :=
  match lookupKey shapeKey r.attributes with
  | some (.str name) => name == streamShape
  | _ => false

section Misleading

theorem misleads_iff : r.misleads ↔ lookupKey shapeKey r.attributes = some (.str streamShape) := by
  rw [misleads]
  split
  · rename_i heq
    rw [heq]
    simp
  · rename_i hne
    simpa using hne streamShape

theorem FieldsFit.ne_token (h : FieldsFit fields shape.types) {f : String × Record} (hf : f ∈ fields)
    {shape' : Shape} {kind' : TokenKind} {fs : List (String × Record)} :
    f.2 ≠ token shape' kind' fs := by
  obtain ⟨type, htype, hfits⟩ := h.exists_type ((lookupKey_eq_some h.distinctKeys_fields).2 hf)
  intro heq
  rw [heq] at hfits
  exact (Shape.mem_types (mem_of_lookupKey htype)).1 (fits_token_iff.1 hfits).1

/-- The only fields that can pass for streams are the attributes of helpers. -/
theorem FieldsFit.misleads_iff (h : FieldsFit fields shape.types) (kind : TokenKind) :
    (token shape kind fields).misleads ↔ ∃ f ∈ fields, ∃ j, f.2 = value j ∧ isStream j := by
  rw [Record.misleads_iff]
  constructor
  · intro hlookup
    cases shape with
    | helper =>
      rw [attributes] at hlookup
      split at hlookup
      · rename_i entries hentries
        exact ⟨_, mem_of_lookupKey hentries, _, rfl, isStream_obj.2 hlookup⟩
      · cases hlookup
    | _ => cases hlookup
  · rintro ⟨⟨key, _⟩, hf, j, rfl, hj⟩
    have hlookup := (lookupKey_eq_some h.distinctKeys_fields).2 hf
    obtain ⟨entries, rfl⟩ := exists_obj_of_isStream hj
    obtain ⟨type, htype, hfits⟩ := h.exists_type hlookup
    have hmap : type = .textMap := by
      rw [fits_value] at hfits
      cases type <;> first | rfl | cases hfits
    obtain ⟨rfl, rfl⟩ := (Shape.mem_types (mem_of_lookupKey htype)).2 hmap
    rw [attributes, hlookup]
    exact isStream_obj.1 hj

theorem misleads_value : (value j).misleads = false := rfl

theorem isStream_written_stream : isStream (stream frozen source tokens).written = true := by
  rw [written, isStream_obj]
  rfl

theorem ne_value_of_fits_token (h : r.fits .token) : ∀ j, r ≠ value j := by
  rintro j rfl
  rw [fits_value] at h
  cases j <;> cases h

theorem read_written (hr : r.fits type) (hne : ∀ j, r ≠ value j) (hfrozen : r.allFrozen)
    (hplain : ∀ t ∈ r.parts, t.misleads = false) : read .endless r.written.sorted = .ok r.inOrder := by
  induction r using induct generalizing type with
  | hvalue j => exact absurd rfl (hne j)
  | htoken shape kind fields ih =>
    obtain ⟨rfl, hfields⟩ := fits_token_iff.1 hr
    rw [allFrozen_token, List.all_eq_true] at hfrozen
    rw [parts_token, List.forall_mem_cons] at hplain
    have hfield : ∀ f ∈ fields, (f.2.restored.map fun r => (f.1, r)) = .ok (f.1, f.2.inOrder) := by
      rintro ⟨key, r⟩ hf
      obtain ⟨type, hfits⟩ := hfields.fits_of_mem hf
      cases r with
      | value j =>
        have hnot : ¬ isStream j = true := by
          intro hj
          have hmisleads := (hfields.misleads_iff kind).2 ⟨_, hf, j, rfl, hj⟩
          rw [hplain.1] at hmisleads
          cases hmisleads
        rw [restored, written, if_neg hnot, inOrder]
        rfl
      | token => exact absurd rfl (hfields.ne_token hf)
      | stream frozen source tokens =>
        have hread := ih _ hf hfits (fun _ h => by cases h) (hfrozen _ hf) fun t ht =>
          hplain.2 t (List.mem_flatMap.2 ⟨_, hf, ht⟩)
        rw [restored, if_pos isStream_written_stream, hread]
        rfl
    rw [read_written_token hfields, Except.mapM_eq_ok hfield, inOrder, fieldsInOrder_eq]
    rfl
  | hstream frozen source tokens ih =>
    obtain ⟨-, hsource, htokens⟩ := fits_stream_iff.1 hr
    obtain ⟨text, rfl⟩ := Json.exists_text hsource
    rw [allFrozen_stream, Bool.and_eq_true, List.all_eq_true] at hfrozen
    rw [parts_stream, List.forall_mem_cons] at hplain
    have htoken : ∀ t ∈ tokens, read .endless t.written.sorted = .ok t.inOrder := fun t ht =>
      ih t ht (htokens t ht) (ne_value_of_fits_token (htokens t ht)) (hfrozen.2 t ht) fun u hu =>
        hplain.2 u (List.mem_flatMap.2 ⟨t, ht, hu⟩)
    rw [read_written_stream, Except.mapM_eq_ok htoken, inOrder, tokensInOrder_eq, hfrozen.1]
    rfl

theorem misleads_eq_false_of_read (hr : r.fits type) (hread : read .endless r.written.sorted = .ok s)
    (hsame : s.same r) (hne : ∀ j, r ≠ value j) : ∀ t ∈ r.parts, t.misleads = false := by
  induction r using induct generalizing type s with
  | hvalue j => exact absurd rfl (hne j)
  | htoken shape kind fields ih =>
    obtain ⟨rfl, hfields⟩ := fits_token_iff.1 hr
    rw [read_written_token hfields] at hread
    obtain ⟨fs, hfs, rfl⟩ := Except.map_eq_ok_iff.1 hread
    rw [same, Bool.and_eq_true, sameFields_iff] at hsame
    have hfield : ∀ f ∈ fields, ∃ r, f.2.restored = .ok r ∧ r.same f.2 := by
      intro f hf
      obtain ⟨g, hg, -, hgf⟩ := exists_of_forall₂_forall₂ (Except.mapM_ok hfs) hsame.2 hf
      obtain ⟨r, hr, rfl⟩ := Except.map_eq_ok_iff.1 hg
      exact ⟨r, hr, hgf⟩
    rw [parts_token, List.forall_mem_cons]
    refine ⟨?_, fun t ht => ?_⟩
    -- A value that misleads is read as a stream, which is not the same.
    · rw [← Bool.not_eq_true, hfields.misleads_iff]
      rintro ⟨⟨key, _⟩, hf, j, rfl, hj⟩
      obtain ⟨r, hr, hsame⟩ := hfield _ hf
      obtain ⟨type, hfits⟩ := hfields.fits_of_mem hf
      rw [fits_value] at hfits
      rw [restored, written, if_pos hj] at hr
      obtain ⟨source, tokens, rfl⟩ :=
        exists_stream_of_read ((isStream_sorted (Json.isPlain_of_fits hfits)).trans hj) hr
      cases hsame
    · obtain ⟨⟨key, r⟩, hf, ht⟩ := List.mem_flatMap.1 ht
      obtain ⟨type, hfits⟩ := hfields.fits_of_mem hf
      obtain ⟨s, hs, hsame⟩ := hfield _ hf
      cases r with
      | value j =>
        rw [parts_value, List.mem_singleton] at ht
        rw [ht, misleads_value]
      | token => exact absurd rfl (hfields.ne_token hf)
      | stream frozen source tokens =>
        rw [restored, if_pos isStream_written_stream] at hs
        exact ih _ hf hfits hs hsame (fun _ h => by cases h) t ht
  | hstream frozen source tokens ih =>
    obtain ⟨-, hsource, htokens⟩ := fits_stream_iff.1 hr
    obtain ⟨text, rfl⟩ := Json.exists_text hsource
    rw [read_written_stream] at hread
    obtain ⟨ts, hts, rfl⟩ := Except.map_eq_ok_iff.1 hread
    rw [same, Bool.and_eq_true, sameTokens_iff] at hsame
    rw [parts_stream, List.forall_mem_cons]
    refine ⟨rfl, fun u hu => ?_⟩
    obtain ⟨t, ht, hu⟩ := List.mem_flatMap.1 hu
    obtain ⟨s, hs, hst⟩ := exists_of_forall₂_forall₂ (Except.mapM_ok hts) hsame.2 ht
    exact ih t ht (htokens t ht) hs hst (ne_value_of_fits_token (htokens t ht)) u hu

end Misleading

end Record

end TemplateLexer
