import Mathlib.Data.List.Forall2
import TemplateLexer.Proofs.FieldTypes

set_option autoImplicit false

namespace TemplateLexer

namespace Record

mutual

/-- Whether a record has a type. -/
def fits : Record → RecordType → Bool
  | value j, type => j.fits type
  | stream _ source tokens, type => type == .optionalStream && source.isText && tokensFit tokens
  | token shape _ fields, type => type == .token && fieldsFit fields shape.types

def tokensFit : List Record → Bool
  | [] => true
  | t :: rest => t.fits .token && tokensFit rest

def fieldsFit : List (String × Record) → List (String × RecordType) → Bool
  | [], [] => true
  | (k, r) :: rest, (key, type) :: types => k == key && r.fits type && fieldsFit rest types
  | _, _ => false

end

mutual

/-- A record with all records inside it. -/
def parts : Record → List Record
  | value j => [value j]
  | token shape kind fields => token shape kind fields :: partsOfFields fields
  | stream frozen source tokens => stream frozen source tokens :: partsOfTokens tokens

def partsOfTokens : List Record → List Record
  | [] => []
  | t :: rest => t.parts ++ partsOfTokens rest

def partsOfFields : List (String × Record) → List Record
  | [] => []
  | (_, r) :: rest => r.parts ++ partsOfFields rest

end

/-- Whether a record is a stream that can still be written to. -/
def isOpen : Record → Bool
  | stream frozen _ _ => !frozen
  | _ => false

/-- Whether all streams of a record are frozen. -/
def allFrozen (r : Record) : Bool := r.parts.all fun p => !p.isOpen

def source? : Record → Option Json
  | stream _ source _ => some source
  | _ => none

/-- The sources of all streams of a record, outer ones first. -/
def sources (r : Record) : List Json := r.parts.filterMap source?

mutual

/-- The written form of a record that is frozen. -/
def written : Record → Json
  | value j => j
  | token shape kind fields =>
    .obj ((shapeKey, .str shape.name) :: ("type", .str kind.name) :: writtenFields fields)
  | stream _ source tokens =>
    .obj [(shapeKey, .str streamShape), ("source", source), ("tokens", .arr (writtenTokens tokens))]

def writtenTokens : List Record → List Json
  | [] => []
  | t :: rest => t.written :: writtenTokens rest

def writtenFields : List (String × Record) → List (String × Json)
  | [] => []
  | (k, r) :: rest => (k, r.written) :: writtenFields rest

end

mutual

/-- A record with the keys of all its maps in order. -/
def inOrder : Record → Record
  | value j => value j.sorted
  | token shape kind fields => token shape kind (fieldsInOrder fields)
  | stream frozen source tokens => stream frozen source (tokensInOrder tokens)

def tokensInOrder : List Record → List Record
  | [] => []
  | t :: rest => t.inOrder :: tokensInOrder rest

def fieldsInOrder : List (String × Record) → List (String × Record)
  | [] => []
  | (k, r) :: rest => (k, r.inOrder) :: fieldsInOrder rest

end

section Lists

variable {α β γ : Type} {S : α → α → Prop} {f : α → β} {inner : α → List γ} {xs ys : List α}

theorem length_flatMap_of_forall₂ (h : List.Forall₂ S xs ys)
    (hS : ∀ x ∈ xs, ∀ y, S x y → (inner x).length = (inner y).length) :
    (xs.flatMap inner).length = (ys.flatMap inner).length := by
  induction h with
  | nil => rfl
  | @cons x y xs ys hxy _ ih =>
    obtain ⟨hx, hxs⟩ := List.forall_mem_cons.1 hS
    rw [List.flatMap_cons, List.flatMap_cons, List.length_append, List.length_append, hx y hxy,
      ih hxs]

/-- Where members are told by a relation and by lists that it gives equal lengths, whole lists are
told by the relation of members and by those lists in a row. -/
theorem map_eq_map_iff_forall₂
    (h : ∀ x ∈ xs, ∀ y ∈ ys, f x = f y ↔ S x y ∧ inner x = inner y)
    (hS : ∀ x y, S x y → (inner x).length = (inner y).length) :
    xs.map f = ys.map f ↔ List.Forall₂ S xs ys ∧ xs.flatMap inner = ys.flatMap inner := by
  induction xs generalizing ys with
  | nil => cases ys <;> simp
  | cons x xs ih =>
    cases ys with
    | nil => simp
    | cons y ys =>
      have htail := ih fun u hu v hv =>
        h u (List.mem_cons_of_mem x hu) v (List.mem_cons_of_mem y hv)
      rw [List.map_cons, List.map_cons, List.cons.injEq, List.forall₂_cons, List.flatMap_cons,
        List.flatMap_cons, htail, h x List.mem_cons_self y List.mem_cons_self]
      constructor
      · rintro ⟨⟨hxy, hinner⟩, hall, hrest⟩
        exact ⟨⟨hxy, hall⟩, by rw [hinner, hrest]⟩
      · rintro ⟨⟨hxy, hall⟩, hboth⟩
        obtain ⟨hinner, hrest⟩ := List.append_inj hboth (hS x y hxy)
        exact ⟨⟨hxy, hinner⟩, hall, hrest⟩

theorem map_eq_map_of_imp {g : α → γ} (h : ∀ x ∈ xs, ∀ y ∈ ys, f x = f y → g x = g y)
    (heq : xs.map f = ys.map f) : xs.map g = ys.map g := by
  induction xs generalizing ys with
  | nil => rw [List.map_eq_nil_iff.1 heq.symm]
  | cons x xs ih =>
    cases ys with
    | nil => cases heq
    | cons y ys =>
      obtain ⟨hxy, hrest⟩ := List.cons.inj heq
      rw [List.map_cons, List.map_cons, h x List.mem_cons_self y List.mem_cons_self hxy,
        ih (fun u hu v hv => h u (List.mem_cons_of_mem x hu) v (List.mem_cons_of_mem y hv)) hrest]

end Lists

@[elab_as_elim]
theorem induct {P : Record → Prop} (hvalue : ∀ j, P (value j))
    (htoken : ∀ shape kind fields, (∀ f ∈ fields, P f.2) → P (token shape kind fields))
    (hstream : ∀ frozen source tokens, (∀ t ∈ tokens, P t) → P (stream frozen source tokens)) :
    ∀ r, P r
  | value j => hvalue j
  | token shape kind fields =>
    htoken shape kind fields fun f _ => induct hvalue htoken hstream f.2
  | stream frozen source tokens =>
    hstream frozen source tokens fun t _ => induct hvalue htoken hstream t
termination_by r => sizeOf r
decreasing_by
  · have hmem := List.sizeOf_lt_of_mem ‹f ∈ fields›
    have hfield : sizeOf f.2 < sizeOf f := by
      cases f
      simp only [Prod.mk.sizeOf_spec]
      omega
    simp only [token.sizeOf_spec]
    omega
  · have hmem := List.sizeOf_lt_of_mem ‹t ∈ tokens›
    simp only [stream.sizeOf_spec]
    omega

variable {r : Record} {shape : Shape} {kind : TokenKind} {fields : List (String × Record)}
  {frozen : Bool} {source : Json} {tokens : List Record} {j : Json}

section Members

@[simp] theorem tokensFit_eq : tokensFit tokens = tokens.all (·.fits .token) := by
  induction tokens with
  | nil => rfl
  | cons t rest ih => rw [tokensFit, ih, List.all_cons]

theorem fieldsFit_iff {types : List (String × RecordType)} :
    fieldsFit fields types ↔ List.Forall₂ (fun f t => f.1 = t.1 ∧ f.2.fits t.2) fields types := by
  induction fields generalizing types with
  | nil => cases types <;> simp [fieldsFit]
  | cons f rest ih => cases types <;> simp [fieldsFit, ih]

@[simp] theorem partsOfTokens_eq : partsOfTokens tokens = tokens.flatMap parts := by
  induction tokens with
  | nil => rfl
  | cons t rest ih => rw [partsOfTokens, ih, List.flatMap_cons]

@[simp] theorem partsOfFields_eq : partsOfFields fields = fields.flatMap fun f => f.2.parts := by
  induction fields with
  | nil => rfl
  | cons f rest ih => rw [partsOfFields, ih, List.flatMap_cons]

@[simp] theorem writtenTokens_eq : writtenTokens tokens = tokens.map written := by
  induction tokens with
  | nil => rfl
  | cons t rest ih => rw [writtenTokens, ih, List.map_cons]

@[simp] theorem writtenFields_eq :
    writtenFields fields = fields.map fun f => (f.1, f.2.written) := by
  induction fields with
  | nil => rfl
  | cons f rest ih => rw [writtenFields, ih, List.map_cons]

@[simp] theorem tokensInOrder_eq : tokensInOrder tokens = tokens.map inOrder := by
  induction tokens with
  | nil => rfl
  | cons t rest ih => rw [tokensInOrder, ih, List.map_cons]

@[simp] theorem fieldsInOrder_eq :
    fieldsInOrder fields = fields.map fun f => (f.1, f.2.inOrder) := by
  induction fields with
  | nil => rfl
  | cons f rest ih => rw [fieldsInOrder, ih, List.map_cons]

end Members

section Parts

@[simp] theorem parts_value : (value j).parts = [value j] := by rw [parts]

@[simp] theorem parts_token :
    (token shape kind fields).parts = token shape kind fields :: fields.flatMap fun f => f.2.parts := by
  rw [parts, partsOfFields_eq]

@[simp] theorem parts_stream :
    (stream frozen source tokens).parts = stream frozen source tokens :: tokens.flatMap parts := by
  rw [parts, partsOfTokens_eq]

@[simp] theorem allFrozen_value : (value j).allFrozen = true := by simp [allFrozen, isOpen]

@[simp] theorem allFrozen_token :
    (token shape kind fields).allFrozen = fields.all fun f => f.2.allFrozen := by
  rw [allFrozen, parts_token, List.all_cons, List.all_flatMap]
  rfl

@[simp] theorem allFrozen_stream :
    (stream frozen source tokens).allFrozen = (frozen && tokens.all allFrozen) := by
  rw [allFrozen, parts_stream, List.all_cons, List.all_flatMap, isOpen, Bool.not_not]
  rfl

@[simp] theorem sources_value : (value j).sources = [] := by simp [sources, source?]

@[simp] theorem sources_token :
    (token shape kind fields).sources = fields.flatMap fun f => f.2.sources := by
  rw [sources, parts_token, List.filterMap_cons_none rfl, List.filterMap_flatMap]
  rfl

@[simp] theorem sources_stream :
    (stream frozen source tokens).sources = source :: tokens.flatMap sources := by
  rw [sources, parts_stream, List.filterMap_cons_some (f := source?) (b := source) rfl, List.filterMap_flatMap]
  rfl

@[simp] theorem sources_inOrder (r : Record) : r.inOrder.sources = r.sources := by
  induction r using induct with
  | hvalue j => rw [inOrder, sources_value, sources_value]
  | htoken shape kind fields ih =>
    rw [inOrder, fieldsInOrder_eq, sources_token, sources_token, List.flatMap_map]
    exact List.flatMap_congr ih
  | hstream frozen source tokens ih =>
    rw [inOrder, tokensInOrder_eq, sources_stream, sources_stream, List.flatMap_map]
    exact congrArg _ (List.flatMap_congr ih)

end Parts

section Written

theorem jsonTokens_eq (h : ∀ t ∈ tokens,
      t.json = if t.allFrozen then .ok t.written else .error (.badRecord .notFrozen)) :
    jsonTokens tokens = if tokens.all allFrozen then .ok (tokens.map written)
      else .error (.badRecord .notFrozen) := by
  induction tokens with
  | nil => rfl
  | cons t rest ih =>
    obtain ⟨ht, hrest⟩ := List.forall_mem_cons.1 h
    rw [jsonTokens, ht, ih hrest, List.all_cons]
    cases t.allFrozen <;> cases rest.all allFrozen <;> rfl

theorem jsonFields_eq (h : ∀ f ∈ fields,
      f.2.json = if f.2.allFrozen then .ok f.2.written else .error (.badRecord .notFrozen)) :
    jsonFields fields = if fields.all (fun f => f.2.allFrozen)
      then .ok (fields.map fun f => (f.1, f.2.written))
      else .error (.badRecord .notFrozen) := by
  induction fields with
  | nil => rfl
  | cons f rest ih =>
    obtain ⟨hf, hrest⟩ := List.forall_mem_cons.1 h
    rw [jsonFields, hf, ih hrest, List.all_cons]
    cases f.2.allFrozen <;> cases rest.all (fun f => f.2.allFrozen) <;> rfl

theorem json_eq (r : Record) :
    r.json = if r.allFrozen then .ok r.written else .error (.badRecord .notFrozen) := by
  induction r using induct with
  | hvalue j => rw [json, allFrozen_value, if_pos rfl, written]
  | htoken shape kind fields ih =>
    rw [json, jsonFields_eq ih, allFrozen_token, written, writtenFields_eq]
    split <;> rfl
  | hstream frozen source tokens ih =>
    rw [json, jsonTokens_eq ih, allFrozen_stream, written, writtenTokens_eq]
    cases frozen <;> cases tokens.all allFrozen <;> rfl

end Written

section Typed

variable {type : RecordType} {types : List (String × RecordType)} {key : String} {s : Record}

def FieldsFit (fields : List (String × Record)) (types : List (String × RecordType)) : Prop :=
  List.Forall₂ (fun f t => f.1 = t.1 ∧ f.2.fits t.2) fields types

@[simp] theorem fits_value : (value j).fits type = j.fits type := by rw [fits]

theorem fits_token_iff :
    (token shape kind fields).fits type ↔ type = .token ∧ FieldsFit fields shape.types := by
  rw [fits, Bool.and_eq_true, beq_iff_eq, fieldsFit_iff]
  rfl

theorem fits_stream_iff :
    (stream frozen source tokens).fits type ↔
      type = .optionalStream ∧ source.isText ∧ ∀ t ∈ tokens, t.fits .token := by
  rw [fits, Bool.and_eq_true, Bool.and_eq_true, beq_iff_eq, tokensFit_eq, List.all_eq_true,
    and_assoc]

theorem FieldsFit.keys (h : FieldsFit fields types) :
    fields.map Prod.fst = types.map Prod.fst := by
  induction h with
  | nil => rfl
  | cons hf _ ih => rw [List.map_cons, List.map_cons, ih, hf.1]

theorem FieldsFit.exists_type (h : FieldsFit fields types) (hr : lookupKey key fields = some r) :
    ∃ type, lookupKey key types = some type ∧ r.fits type := by
  induction h with
  | nil => cases hr
  | @cons f t _ _ hf _ ih =>
    by_cases hk : f.1 = key
    · rw [lookupKey, if_pos hk] at hr
      obtain rfl := Option.some.inj hr
      exact ⟨t.2, by rw [lookupKey, if_pos (hf.1 ▸ hk)], hf.2⟩
    · rw [lookupKey, if_neg hk] at hr
      obtain ⟨type, htype, hfits⟩ := ih hr
      exact ⟨type, by rw [lookupKey, if_neg (hf.1 ▸ hk), htype], hfits⟩

theorem FieldsFit.fits_of_mem (h : FieldsFit fields types) {f : String × Record} (hf : f ∈ fields) :
    ∃ type, f.2.fits type := by
  induction h with
  | nil => cases hf
  | cons hg _ ih =>
    rcases List.mem_cons.1 hf with rfl | hmem
    · exact ⟨_, hg.2⟩
    · exact ih hmem

theorem FieldsFit.distinctKeys {α : Type} (h : FieldsFit fields shape.types) (name kind : α)
    (f : Record → α) :
    DistinctKeys ((shapeKey, name) :: ("type", kind) :: fields.map fun e => (e.1, f e.2)) := by
  have hdistinct := shape.distinctKeys_types
  simp only [DistinctKeys, List.map_cons, List.map_map, ← h.keys] at hdistinct ⊢
  exact hdistinct

theorem FieldsFit.distinctKeys_fields (h : FieldsFit fields shape.types) : DistinctKeys fields := by
  have hdistinct := h.distinctKeys () () fun _ => ()
  exact (distinctKeys_map fun _ => ()).1 (distinctKeys_cons.1 (distinctKeys_cons.1 hdistinct).2).2

theorem distinctKeys_stream {α : Type} (name source tokens : α) :
    DistinctKeys [(shapeKey, name), ("source", source), ("tokens", tokens)] := by
  simp [DistinctKeys, shapeKey]

theorem isPlain_written (h : r.fits type) : r.written.IsPlain := by
  induction r using induct generalizing type with
  | hvalue j =>
    rw [written]
    exact Json.isPlain_of_fits (fits_value.symm.trans h)
  | htoken shape kind fields ih =>
    obtain ⟨-, hfields⟩ := fits_token_iff.1 h
    rw [written, writtenFields_eq]
    refine .obj (hfields.distinctKeys _ _ written) ?_
    simp only [List.mem_cons, List.mem_map]
    rintro e (rfl | rfl | ⟨f, hf, rfl⟩)
    · exact .str _
    · exact .str _
    · obtain ⟨type, hfits⟩ := hfields.fits_of_mem hf
      exact ih f hf hfits
  | hstream frozen source tokens ih =>
    obtain ⟨-, hsource, htokens⟩ := fits_stream_iff.1 h
    rw [written, writtenTokens_eq]
    refine .obj (distinctKeys_stream _ _ _) ?_
    simp only [List.mem_cons, List.not_mem_nil, or_false]
    rintro e (rfl | rfl | rfl)
    · exact .str _
    · exact Json.isPlain_of_isText hsource
    · refine .arr fun j hj => ?_
      obtain ⟨t, ht, rfl⟩ := List.mem_map.1 hj
      exact ih t ht (htokens t ht)

theorem fits_inOrder (h : r.fits type) : r.inOrder.fits type := by
  induction r using induct generalizing type with
  | hvalue j =>
    rw [inOrder, fits_value]
    exact Json.fits_sorted (fits_value.symm.trans h)
  | htoken shape kind fields ih =>
    obtain ⟨rfl, hfields⟩ := fits_token_iff.1 h
    rw [inOrder, fieldsInOrder_eq]
    refine fits_token_iff.2 ⟨rfl, ?_⟩
    rw [FieldsFit, List.forall₂_map_left_iff]
    clear h
    generalize shape.types = types at hfields
    induction hfields with
    | nil => exact .nil
    | cons hf _ ih' =>
      obtain ⟨hhead, htail⟩ := List.forall_mem_cons.1 ih
      exact .cons ⟨hf.1, hhead hf.2⟩ (ih' htail)
  | hstream frozen source tokens ih =>
    obtain ⟨rfl, hsource, htokens⟩ := fits_stream_iff.1 h
    rw [inOrder, tokensInOrder_eq]
    refine fits_stream_iff.2 ⟨rfl, hsource, fun t ht => ?_⟩
    obtain ⟨u, hu, rfl⟩ := List.mem_map.1 ht
    exact ih u hu (htokens u hu)

theorem inOrder_inOrder (h : r.fits type) : r.inOrder.inOrder = r.inOrder := by
  induction r using induct generalizing type with
  | hvalue j =>
    rw [inOrder, inOrder, (Json.isPlain_of_fits (fits_value.symm.trans h)).sorted_sorted]
  | htoken shape kind fields ih =>
    obtain ⟨-, hfields⟩ := fits_token_iff.1 h
    rw [inOrder, fieldsInOrder_eq, inOrder, fieldsInOrder_eq, List.map_map]
    refine congrArg _ (List.map_congr_left fun f hf => ?_)
    obtain ⟨type, hfits⟩ := hfields.fits_of_mem hf
    exact congrArg _ (ih f hf hfits)
  | hstream frozen source tokens ih =>
    obtain ⟨-, -, htokens⟩ := fits_stream_iff.1 h
    rw [inOrder, tokensInOrder_eq, inOrder, tokensInOrder_eq, List.map_map]
    exact congrArg _ (List.map_congr_left fun t ht => ih t ht (htokens t ht))

section Same

@[simp] theorem sameTokens_iff {ts : List Record} :
    sameTokens tokens ts ↔ List.Forall₂ (fun x y => x.same y) tokens ts := by
  induction tokens generalizing ts with
  | nil => cases ts <;> simp [sameTokens]
  | cons t rest ih => cases ts <;> simp [sameTokens, ih]

@[simp] theorem sameFields_iff {fs : List (String × Record)} :
    sameFields fields fs ↔ List.Forall₂ (fun x y => x.1 = y.1 ∧ x.2.same y.2) fields fs := by
  induction fields generalizing fs with
  | nil => cases fs <;> simp [sameFields]
  | cons f rest ih => cases fs <;> simp [sameFields, ih]

theorem length_sources_of_same (h : r.same s) : r.sources.length = s.sources.length := by
  induction r using induct generalizing s with
  | hvalue j =>
    cases s with
    | value k => rw [sources_value, sources_value]
    | _ => simp [same] at h
  | htoken shape kind fields ih =>
    cases s with
    | token shape' kind' fs =>
      rw [same, Bool.and_eq_true, sameFields_iff] at h
      rw [sources_token, sources_token]
      exact length_flatMap_of_forall₂ h.2 fun f hf _ hsame => ih f hf hsame.2
    | _ => simp [same] at h
  | hstream frozen source tokens ih =>
    cases s with
    | stream frozen' source' ts =>
      rw [same, Bool.and_eq_true, sameTokens_iff] at h
      rw [sources_stream, sources_stream, List.length_cons, List.length_cons,
        length_flatMap_of_forall₂ h.2 fun t ht _ hsame => ih t ht hsame]
    | _ => simp [same] at h

theorem FieldsFit.exists_common {fs : List (String × Record)} (h : FieldsFit fields shape.types)
    (hs : FieldsFit fs shape.types) {f g : String × Record} (hf : f ∈ fields) (hg : g ∈ fs)
    (hkey : f.1 = g.1) : ∃ type, f.2.fits type ∧ g.2.fits type := by
  obtain ⟨type, htype, hfits⟩ := h.exists_type ((lookupKey_eq_some h.distinctKeys_fields).2 hf)
  obtain ⟨type', htype', hfits'⟩ :=
    hs.exists_type ((lookupKey_eq_some hs.distinctKeys_fields).2 hg)
  rw [← hkey, htype] at htype'
  obtain rfl := Option.some.inj htype'
  exact ⟨type, hfits, hfits'⟩

/-- Records of one type that are the same, with the same sources on all levels, are those that are
equal with keys in order. -/
theorem inOrder_eq_iff (hr : r.fits type) (hs : s.fits type) :
    r.inOrder = s.inOrder ↔ r.same s ∧ r.sources = s.sources := by
  induction r using induct generalizing s type with
  | hvalue j =>
    cases s with
    | value k =>
      rw [fits_value] at hr hs
      rw [inOrder, inOrder, value.injEq, ← Json.same_iff hr hs, same, sources_value, sources_value]
      simp
    | _ => simp [same, inOrder]
  | htoken shape kind fields ih =>
    cases s with
    | token shape' kind' fs =>
      obtain ⟨rfl, hfields⟩ := fits_token_iff.1 hr
      obtain ⟨-, hfs⟩ := fits_token_iff.1 hs
      rw [inOrder, inOrder, fieldsInOrder_eq, fieldsInOrder_eq, token.injEq, same, sources_token,
        sources_token, Bool.and_eq_true, Bool.and_eq_true, beq_iff_eq, beq_iff_eq, sameFields_iff,
        and_assoc, and_assoc]
      refine and_congr_right fun hshape => and_congr_right fun _ => ?_
      subst hshape
      refine map_eq_map_iff_forall₂ (fun f hf g hg => ?_)
        fun _ _ h => length_sources_of_same h.2
      rw [Prod.mk.injEq, and_assoc]
      refine and_congr_right fun hkey => ?_
      obtain ⟨type, hf', hg'⟩ := hfields.exists_common hfs hf hg hkey
      exact ih f hf hf' hg'
    | _ => simp [same, inOrder]
  | hstream frozen source tokens ih =>
    cases s with
    | stream frozen' source' ts =>
      obtain ⟨-, -, htokens⟩ := fits_stream_iff.1 hr
      obtain ⟨-, -, hts⟩ := fits_stream_iff.1 hs
      rw [inOrder, inOrder, tokensInOrder_eq, tokensInOrder_eq, stream.injEq, same, sources_stream,
        sources_stream, Bool.and_eq_true, beq_iff_eq, sameTokens_iff, List.cons.injEq,
        map_eq_map_iff_forall₂ (fun t ht u hu => ih t ht (htokens t ht) (hts u hu))
          fun _ _ => length_sources_of_same]
      tauto
    | _ => simp [same, inOrder]

theorem same_inOrder (h : r.fits type) : r.inOrder.same r :=
  ((inOrder_eq_iff (fits_inOrder h) h).1 (inOrder_inOrder h)).1

end Same

section Told

theorem sorted_written_inOrder (h : r.fits type) :
    r.inOrder.written.sorted = r.written.sorted := by
  induction r using induct generalizing type with
  | hvalue j =>
    rw [inOrder, written, written,
      (Json.isPlain_of_fits (fits_value.symm.trans h)).sorted_sorted]
  | htoken shape kind fields ih =>
    obtain ⟨-, hfields⟩ := fits_token_iff.1 h
    rw [inOrder, written, written, writtenFields_eq, writtenFields_eq, fieldsInOrder_eq,
      Json.sorted, Json.sorted, Json.sortedEntries_eq, Json.sortedEntries_eq]
    simp only [List.map_cons, List.map_map]
    refine congrArg (fun es => Json.obj (Json.sortEntries (_ :: _ :: es)))
      (List.map_congr_left fun f hf => ?_)
    obtain ⟨type, hfits⟩ := hfields.fits_of_mem hf
    exact congrArg _ (ih f hf hfits)
  | hstream frozen source tokens ih =>
    obtain ⟨-, -, htokens⟩ := fits_stream_iff.1 h
    rw [inOrder, written, written, writtenTokens_eq, writtenTokens_eq, tokensInOrder_eq,
      Json.sorted, Json.sorted, Json.sortedEntries_eq, Json.sortedEntries_eq]
    simp only [List.map_cons, List.map_map, List.map_nil, Json.sorted_arr]
    refine congrArg (fun items => Json.obj (Json.sortEntries [_, _, ("tokens", .arr items)]))
      (List.map_congr_left fun t ht => ?_)
    exact ih t ht (htokens t ht)

theorem FieldsFit.lookupKey_written (h : FieldsFit fields shape.types) (name kind : Json)
    (hr : lookupKey key fields = some r) :
    lookupKey key ((shapeKey, name) :: ("type", kind) :: fields.map fun f => (f.1, f.2.written))
      = some r.written := by
  refine (lookupKey_eq_some (h.distinctKeys name kind written)).2 ?_
  exact List.mem_cons_of_mem _ (List.mem_cons_of_mem _
    (List.mem_map.2 ⟨(key, r), mem_of_lookupKey hr, rfl⟩))

/-- Fields of one shape have the same keys in the same order, so that they are alike where the
fields with one key are. -/
theorem FieldsFit.map_eq_map {α : Type} {f : Record → α} {fs : List (String × Record)}
    (hfields : FieldsFit fields shape.types) (hfs : FieldsFit fs shape.types)
    (h : ∀ key x y, lookupKey key fields = some x → lookupKey key fs = some y → f x = f y) :
    fields.map (fun e => (e.1, f e.2)) = fs.map fun e => (e.1, f e.2) := by
  have hkeys : fields.map (·.1) = fs.map (·.1) := hfields.keys.trans hfs.keys.symm
  refine eq_of_lookupKey ?_ ((distinctKeys_map _).2 hfields.distinctKeys_fields) fun key => ?_
  · rw [List.map_map, List.map_map]
    exact hkeys
  · rw [lookupKey_map, lookupKey_map]
    cases hx : lookupKey key fields with
    | none =>
      rw [lookupKey_eq_none, hkeys, ← lookupKey_eq_none] at hx
      rw [hx]
    | some x =>
      cases hy : lookupKey key fs with
      | none =>
        rw [lookupKey_eq_none, ← hkeys, ← lookupKey_eq_none, hx] at hy
        cases hy
      | some y => exact congrArg some (h key x y hx hy)

theorem inOrder_eq_of_sorted_written (hr : r.fits type) (hs : s.fits type)
    (hrf : r.allFrozen) (hsf : s.allFrozen) (h : r.written.sorted = s.written.sorted) :
    r.inOrder = s.inOrder := by
  induction r using induct generalizing s type with
  | hvalue j =>
    cases s with
    | value k => rw [inOrder, inOrder, value.injEq]; exact h
    | token shape kind fields =>
      obtain ⟨rfl, -⟩ := fits_token_iff.1 hs
      cases j <;> simp [Json.fits] at hr
    | stream frozen source tokens =>
      obtain ⟨rfl, -⟩ := fits_stream_iff.1 hs
      cases j <;> simp [Json.fits] at hr
      simp [written, Json.sorted] at h
  | htoken shape kind fields ih =>
    obtain ⟨rfl, hfields⟩ := fits_token_iff.1 hr
    cases s with
    | value k => cases k <;> simp [Json.fits] at hs
    | stream => simp [fits] at hs
    | token shape' kind' fs =>
      obtain ⟨-, hfs⟩ := fits_token_iff.1 hs
      rw [written, written, writtenFields_eq, writtenFields_eq, Json.sorted_obj_eq_iff
        (hfields.distinctKeys _ _ written) (hfs.distinctKeys _ _ written)] at h
      obtain rfl : shape = shape' := by
        have hname := h shapeKey
        simp only [lookupKey, if_true, Option.map_some, Json.sorted, Option.some.injEq,
          Json.str.injEq] at hname
        exact Shape.name_inj hname
      obtain rfl : kind = kind' := by
        have hname := h "type"
        simp only [lookupKey, shapeKey, if_true, Option.map_some, Json.sorted, Option.some.injEq,
          Json.str.injEq, String.reduceEq, if_false] at hname
        exact TokenKind.name_inj hname
      rw [inOrder, inOrder, fieldsInOrder_eq, fieldsInOrder_eq]
      refine congrArg _ (hfields.map_eq_map hfs fun key x y hx hy => ?_)
      have hxmem := mem_of_lookupKey hx
      have hymem := mem_of_lookupKey hy
      have hxy := h key
      rw [hfields.lookupKey_written _ _ hx, hfs.lookupKey_written _ _ hy] at hxy
      obtain ⟨type, hxfits, hyfits⟩ := hfields.exists_common hfs hxmem hymem rfl
      rw [allFrozen_token, List.all_eq_true] at hrf hsf
      exact ih _ hxmem hxfits hyfits (hrf _ hxmem) (hsf _ hymem) (Option.some.inj hxy)
  | hstream frozen source tokens ih =>
    obtain ⟨rfl, hsource, htokens⟩ := fits_stream_iff.1 hr
    cases s with
    | value k =>
      cases k <;> simp [Json.fits] at hs
      simp [written, Json.sorted] at h
    | token => simp [fits] at hs
    | stream frozen' source' ts =>
      obtain ⟨-, hsource', hts⟩ := fits_stream_iff.1 hs
      rw [allFrozen_stream, Bool.and_eq_true, List.all_eq_true] at hrf hsf
      rw [written, written, writtenTokens_eq, writtenTokens_eq, Json.sorted_obj_eq_iff
        (distinctKeys_stream _ _ _) (distinctKeys_stream _ _ _)] at h
      have hsame : source = source' := by
        have hlookup := h "source"
        simpa [lookupKey, shapeKey, Json.sorted_of_isText hsource,
          Json.sorted_of_isText hsource'] using hlookup
      have hitems : tokens.map (Json.sorted ∘ written) = ts.map (Json.sorted ∘ written) := by
        have hlookup := h "tokens"
        simpa [lookupKey, shapeKey, Json.sorted_arr] using hlookup
      rw [inOrder, inOrder, tokensInOrder_eq, tokensInOrder_eq, hrf.1, hsf.1, hsame]
      refine congrArg _ (map_eq_map_of_imp (fun t ht u hu htu => ?_) hitems)
      exact ih t ht (htokens t ht) (hts u hu) (hrf.2 t ht) (hsf.2 u hu) htu

theorem sorted_written_eq_iff (hr : r.fits type) (hs : s.fits type) (hrf : r.allFrozen)
    (hsf : s.allFrozen) :
    r.written.sorted = s.written.sorted ↔ r.same s ∧ r.sources = s.sources := by
  rw [← inOrder_eq_iff hr hs]
  constructor
  · exact inOrder_eq_of_sorted_written hr hs hrf hsf
  · intro h
    rw [← sorted_written_inOrder hr, h, sorted_written_inOrder hs]

end Told

end Typed

end Record

end TemplateLexer
