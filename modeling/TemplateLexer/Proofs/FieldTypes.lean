import Mathlib.Data.List.Perm.Subperm
import TemplateLexer.Proofs.WrittenJson
import TemplateLexer.Record

set_option autoImplicit false

namespace TemplateLexer

/-- The types of fields; a token is what streams hold. -/
inductive RecordType where
  | number
  | text
  | optionalText
  | texts
  | textMap
  | optionalStream
  | token
  deriving DecidableEq, Repr

namespace Shape

def ownTypes : Shape → List (String × RecordType)
  | property => [("value", .optionalText)]
  | node =>
    [("id", .text), ("path", .text), ("ancestor_id", .optionalText),
      ("previous_sibling_id", .optionalText), ("next_sibling_id", .optionalText),
      ("content", .text), ("children", .texts)]
  | helper =>
    [("id", .text), ("path", .text), ("name", .text), ("namespace", .text),
      ("attributes", .textMap), ("value", .optionalText)]
  | expression =>
    [("id", .text), ("path", .text), ("attribute", .optionalText), ("content", .optionalStream)]
  | content => [("value", .text)]

def types (s : Shape) : List (String × RecordType) :=
  ("lineno", .number) :: ("source_file", .optionalText) :: s.ownTypes

theorem name_inj {a b : Shape} (h : a.name = b.name) : a = b := by
  have hread := named?_name a
  rw [h, named?_name] at hread
  exact (Option.some.inj hread).symm

theorem keys_types (s : Shape) :
    s.types.map Prod.fst
      = (("lineno", Json.null) :: ("source_file", .null) :: s.fields).map Prod.fst := by
  cases s <;> rfl

theorem mem_types {s : Shape} {key : String} {type : RecordType} (h : (key, type) ∈ s.types) :
    type ≠ .token ∧ (type = .textMap → s = helper ∧ key = "attributes") := by
  cases s <;> simp only [types, ownTypes, List.mem_cons, List.not_mem_nil, Prod.mk.injEq] at h <;>
    grind

theorem distinctKeys_types (s : Shape) :
    DistinctKeys ((shapeKey, RecordType.text) :: ("type", .text) :: s.types) := by
  cases s <;> decide

end Shape

theorem TokenKind.name_inj {a b : TokenKind} (h : a.name = b.name) : a = b := by
  have hread := named?_name a
  rw [h, named?_name] at hread
  exact (Option.some.inj hread).symm

namespace Json

def isText : Json → Bool
  | str _ => true
  | _ => false

/-- Whether a value has a type. -/
def fits : Json → RecordType → Bool
  | int _, .number => true
  | str _, .text => true
  | str _, .optionalText => true
  | null, .optionalText => true
  | arr items, .texts => items.all isText
  | obj entries, .textMap => decide (DistinctKeys entries) && entries.all (·.2.isText)
  | null, .optionalStream => true
  | _, _ => false

variable {j k : Json} {type : RecordType}

theorem exists_text (h : j.isText = true) : ∃ s, j = .str s := by
  cases j with
  | str s => exact ⟨s, rfl⟩
  | _ => cases h

theorem isPlain_of_isText (h : j.isText = true) : j.IsPlain := by
  obtain ⟨s, rfl⟩ := exists_text h
  exact .str s

theorem isPlain_of_fits (h : j.fits type) : j.IsPlain := by
  cases j with
  | null => exact .null
  | bool b => cases type <;> cases h
  | int n => exact .int n
  | decimal text => cases type <;> cases h
  | str s => exact .str s
  | arr items =>
    cases type with
    | texts => exact .arr fun x hx => isPlain_of_isText (List.all_eq_true.1 h x hx)
    | _ => cases h
  | obj entries =>
    cases type with
    | textMap =>
      simp only [fits, Bool.and_eq_true, decide_eq_true_eq, List.all_eq_true] at h
      exact .obj h.1 fun e he => isPlain_of_isText (h.2 e he)
    | _ => cases h

theorem sorted_of_isText (h : j.isText = true) : j.sorted = j := by
  obtain ⟨s, rfl⟩ := exists_text h
  rfl

theorem sorted_texts {items : List Json} (h : items.all isText = true) :
    (arr items).sorted = .arr items := by
  rw [sorted_arr]
  refine congrArg _ ((List.map_congr_left fun x hx => ?_).trans (List.map_id items))
  exact sorted_of_isText (List.all_eq_true.1 h x hx)

theorem sorted_textMap {entries : List (String × Json)}
    (h : entries.all (·.2.isText) = true) :
    (obj entries).sorted = .obj (sortEntries entries) := by
  rw [sorted, sortedEntries_eq]
  refine congrArg (fun es => obj (sortEntries es))
    ((List.map_congr_left fun e he => ?_).trans (List.map_id entries))
  rw [sorted_of_isText (List.all_eq_true.1 h e he), id]

theorem fits_sorted (h : j.fits type) : j.sorted.fits type := by
  cases j with
  | arr items =>
    cases type with
    | texts => rwa [sorted_texts h]
    | _ => cases h
  | obj entries =>
    cases type with
    | textMap =>
      simp only [fits, Bool.and_eq_true, decide_eq_true_eq] at h
      rw [sorted_textMap h.2]
      simp only [fits, Bool.and_eq_true, decide_eq_true_eq, distinctKeys_sortEntries]
      refine ⟨h.1, List.all_eq_true.2 fun e he => ?_⟩
      exact List.all_eq_true.1 h.2 e (sortEntries_perm.mem_iff.1 he)
    | _ => cases h
  | _ => exact h

theorem sameItems_iff {xs ys : List Json} (hx : xs.all isText = true)
    (hy : ys.all isText = true) : sameItems xs ys ↔ xs = ys := by
  induction xs generalizing ys with
  | nil => cases ys <;> simp [sameItems]
  | cons x xs ih =>
    cases ys with
    | nil => simp [sameItems]
    | cons y ys =>
      rw [List.all_cons, Bool.and_eq_true] at hx hy
      obtain ⟨s, rfl⟩ := exists_text hx.1
      obtain ⟨t, rfl⟩ := exists_text hy.1
      simp [sameItems, same, ih hx.2 hy.2]

theorem sameEntries_iff {xs ys : List (String × Json)} :
    sameEntries xs ys ↔ ∀ e ∈ xs, ∃ j, lookupKey e.1 ys = some j ∧ e.2.same j := by
  induction xs with
  | nil => simp [sameEntries]
  | cons e rest ih =>
    obtain ⟨k, x⟩ := e
    rw [sameEntries, Bool.and_eq_true, ih, List.forall_mem_cons]
    cases lookupKey k ys <;> simp

theorem same_textMap_iff {xs ys : List (String × Json)} (hxs : DistinctKeys xs)
    (hys : DistinctKeys ys) (hx : xs.all (·.2.isText) = true) (hy : ys.all (·.2.isText) = true) :
    (obj xs).same (.obj ys) ↔ xs.Perm ys := by
  rw [same, Bool.and_eq_true, beq_iff_eq, sameEntries_iff]
  constructor
  · rintro ⟨hlength, hsame⟩
    have hsubset : xs ⊆ ys := by
      intro e he
      obtain ⟨j, hj, heq⟩ := hsame e he
      have hmem := mem_of_lookupKey hj
      obtain ⟨s, hs⟩ := exists_text (List.all_eq_true.1 hx e he)
      obtain ⟨t, rfl⟩ := exists_text (List.all_eq_true.1 hy _ hmem)
      rw [hs, same, beq_iff_eq] at heq
      rwa [← heq, ← hs] at hmem
    exact (List.subperm_of_subset hxs.of_map hsubset).perm_of_length_le hlength.ge
  · intro h
    refine ⟨h.length_eq, fun e he => ⟨e.2, (lookupKey_eq_some hys).2 (h.mem_iff.1 he), ?_⟩⟩
    obtain ⟨s, hs⟩ := exists_text (List.all_eq_true.1 hx e he)
    rw [hs, same, beq_self_eq_true]

theorem same_iff (hj : j.fits type) (hk : k.fits type) :
    j.same k ↔ j.sorted = k.sorted := by
  cases type with
  | number =>
    cases j <;> cases hj
    cases k <;> cases hk
    simp [same, Json.number?, sorted]
  | text =>
    cases j <;> cases hj
    cases k <;> cases hk
    simp [same, sorted]
  | optionalText =>
    cases j <;> cases hj <;> cases k <;> cases hk <;> simp [same, sorted]
  | texts =>
    cases j with
    | arr xs =>
      cases k with
      | arr ys => rw [same, sameItems_iff hj hk, sorted_texts hj, sorted_texts hk, arr.injEq]
      | _ => cases hk
    | _ => cases hj
  | textMap =>
    cases j with
    | obj xs =>
      cases k with
      | obj ys =>
        simp only [fits, Bool.and_eq_true, decide_eq_true_eq] at hj hk
        rw [same_textMap_iff hj.1 hk.1 hj.2 hk.2, sorted_textMap hj.2, sorted_textMap hk.2,
          obj.injEq, sortEntries_eq_iff hj.1 hk.1]
        exact ⟨fun h _ => lookupKey_perm hj.1 h, perm_of_lookupKey hj.1 hk.1⟩
      | _ => cases hk
    | _ => cases hj
  | optionalStream =>
    cases j <;> cases hj
    cases k <;> cases hk
    simp [same]
  | token => cases j <;> cases hj

end Json

theorem Shape.fits_default (s : Shape) :
    List.Forall₂ (fun d t => d.1 = t.1 ∧ d.2.fits t.2) s.fields s.ownTypes := by
  cases s <;> simp [Shape.fields, Shape.ownTypes, Json.fits]

end TemplateLexer
