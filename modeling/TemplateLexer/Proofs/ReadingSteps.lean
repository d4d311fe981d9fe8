import Mathlib
import TemplateLexer.Loading

set_option autoImplicit false

set_option mvcgen.warning false

open Std.Do

namespace TemplateLexer.Markup

/-- A text of characters that names have. -/
def IsPlainName (s : String) : Prop := s.toList.all inName = true

/-- Rules are for attributes with plain names. -/
def DoctypeItem.IsPlain : DoctypeItem → Prop
  | .rule r => IsPlainName r.name
  | _ => True

def Input.HasPlainRules (s : Input) : Prop := ∀ item ∈ s.items, item.IsPlain

namespace Reading

variable {α β : Type}

abbrev Keeps (x : Reading α) : Prop :=
  ⦃fun s => ⌜s.HasPlainRules⌝⦄ x ⦃⇓? _ s => ⌜s.HasPlainRules⌝⦄

abbrev Yields (x : Reading α) (P : α → Prop) : Prop :=
  ⦃fun s => ⌜s.HasPlainRules⌝⦄ x ⦃⇓? a s => ⌜s.HasPlainRules ∧ P a⌝⦄

theorem Yields.imp {x : Reading α} {P Q : α → Prop} (h : x.Yields P) (hPQ : ∀ a, P a → Q a) :
    x.Yields Q := by
  mvcgen [h] with grind

theorem Yields.keeps {x : Reading α} {P : α → Prop} (h : x.Yields P) : x.Keeps := by
  mvcgen [h] with grind

theorem Yields.of_ok {x : Reading α} {P : α → Prop} (h : x.Yields P) {s s' : Input} {a : α}
    (hs : s.HasPlainRules) (hx : x s = .ok (a, s')) : P a := by
  have hpost : (wp (x s) |>.apply (PostCond.mayThrow fun r =>
      ⌜r.2.HasPlainRules ∧ P r.1⌝)).down := h s hs
  rw [hx] at hpost
  exact hpost.2

@[spec] theorem refuse_spec {P : Input → Prop} {Q : α → Input → Prop} :
    ⦃fun s => ⌜P s⌝⦄ (refuse : Reading α) ⦃⇓? a s => ⌜Q a s⌝⦄ := by
  intro s _
  trivial

@[spec] theorem keeps_discard {x : Reading α} (h : x.Keeps) : (discard x).Keeps := by
  have hdiscard : discard x = x >>= fun _ => pure PUnit.unit := rfl
  rw [hdiscard]
  mvcgen [h]

theorem keeps_pure (a : α) : (pure a : Reading α).Keeps := by mvcgen

theorem keeps_bind {x : Reading α} {f : α → Reading β} (hx : x.Keeps) (hf : ∀ a, (f a).Keeps) :
    (x >>= f).Keeps := by
  mvcgen [hx, hf]

theorem keeps_foldlM {f : β → α → Reading β} (h : ∀ b a, (f b a).Keeps) (init : β)
    (xs : List α) : (xs.foldlM f init).Keeps := by
  induction xs generalizing init with
  | nil => exact keeps_pure init
  | cons x xs ih =>
    rw [List.foldlM_cons]
    exact keeps_bind (h init x) ih

theorem keeps_forIn {f : α → β → Reading (ForInStep β)} (h : ∀ a b, (f a b).Keeps)
    (init : β) (xs : List α) : (forIn xs init f).Keeps := by
  induction xs generalizing init with
  | nil => exact keeps_pure init
  | cons x xs ih =>
    rw [List.forIn_cons]
    refine keeps_bind (h x init) fun step => ?_
    cases step with
    | done b => exact keeps_pure b
    | yield b => exact ih b

theorem keeps_forM {f : α → Reading PUnit} (h : ∀ a, (f a).Keeps) (xs : List α) :
    (xs.forM f).Keeps := by
  induction xs with
  | nil => exact keeps_pure _
  | cons x xs ih => exact keeps_bind (h x) fun _ => ih

theorem keeps_mapM {f : α → Reading β} (h : ∀ a, (f a).Keeps) (xs : List α) :
    (xs.mapM f).Keeps := by
  induction xs with
  | nil =>
    rw [List.mapM_nil]
    exact keeps_pure _
  | cons x xs ih =>
    rw [List.mapM_cons]
    exact keeps_bind (h x) fun _ => keeps_bind ih fun _ => keeps_pure _

section Input

@[spec] theorem keeps_remark (v : Severity) : (remark v).Keeps := by mvcgen [remark]

@[spec] theorem keeps_rest : rest.Keeps := by mvcgen [rest]

@[spec] theorem keeps_moveTo (front rest : List Char) : (moveTo front rest).Keeps := by
  mvcgen [moveTo]

@[spec] theorem keeps_takeWhile (p : Char → Bool) : (takeWhile p).Keeps := by mvcgen [takeWhile]

@[spec] theorem keeps_blanks : blanks.Keeps := by mvcgen [blanks]

@[spec] theorem keeps_needBlanks : needBlanks.Keeps := by mvcgen [needBlanks]

@[spec] theorem keeps_sees (front : String) : (sees front).Keeps := by mvcgen [sees]

@[spec] theorem keeps_passes (front : String) : (passes front).Keeps := by mvcgen [passes]

@[spec] theorem keeps_need (front : String) : (need front).Keeps := by mvcgen [need]

@[spec] theorem keeps_takeTo (stop : List Char → Bool) : (takeTo stop).Keeps := by
  mvcgen [takeTo]

@[spec] theorem keeps_takeUntil (mark : String) : (takeUntil mark).Keeps := by
  mvcgen [takeUntil]

@[spec] theorem keeps_quote? : quote?.Keeps := by mvcgen [quote?]

@[spec] theorem keeps_needQuote : needQuote.Keeps := by mvcgen [needQuote]

@[spec] theorem keeps_charReference : charReference.Keeps := by mvcgen [charReference]

theorem yields_takeFront {recognise : List Char → Option (List Char × List Char)}
    {P : String → Prop}
    (h : ∀ cs front after, recognise cs = some (front, after) → P (String.ofList front)) :
    (takeFront recognise).Yields fun n? => ∀ n ∈ n?, P n := by
  mvcgen [takeFront] with grind

theorem isPlainName_of_name? {cs front after : List Char} (h : name? cs = some (front, after)) :
    IsPlainName (String.ofList front) := by
  rw [IsPlainName, String.toList_ofList]
  exact List.all_eq_true.2 (inName_of_name? h)

theorem yields_name : name.Yields IsPlainName := by
  have hfront : (takeFront name?).Yields fun n? => ∀ n ∈ n?, IsPlainName n :=
    yields_takeFront fun _ _ _ => isPlainName_of_name?
  mvcgen [name, hfront] with grind

@[spec] theorem keeps_takeFront (recognise : List Char → Option (List Char × List Char)) :
    (takeFront recognise).Keeps := by
  mvcgen [takeFront]

@[spec] theorem keeps_name : name.Keeps := by mvcgen [name]

@[spec] theorem keeps_referenceName : referenceName.Keeps := by mvcgen [referenceName]

@[spec] theorem keeps_within (e : Entity) (text : String) {step : Reading α} (h : step.Keeps) :
    (within e text step).Keeps := by
  mvcgen [within, h]
  rename_i s hs t
  have hitems : t.2.items = s.items := by
    simp only [t]
    split <;> rfl
  rw [Input.HasPlainRules, hitems]
  exact hs

@[spec] theorem keeps_count (size : Nat) : (count size).Keeps := by mvcgen [count]

@[spec] theorem keeps_standing (e : Entity) : (standing e).Keeps := by mvcgen [standing]

@[spec] theorem keeps_changeStanding (e : Entity) (f : Standing → Standing) :
    (changeStanding e f).Keeps := by
  mvcgen [changeStanding]

@[spec] theorem keeps_opening (e : Entity) {step : Reading α} (h : step.Keeps) :
    (opening e step).Keeps := by
  mvcgen [opening, h]

@[spec] theorem keeps_unexplained : unexplained.Keeps := by mvcgen [unexplained]

@[spec] theorem keeps_lookUp (inValue : Bool) (n : String) : (lookUp inValue n).Keeps := by
  mvcgen [lookUp]

end Input

section Prolog

@[spec] theorem keeps_equals : equals.Keeps := by mvcgen [equals]

@[spec] theorem keeps_quotedValue (p : Char → Bool) : (quotedValue p).Keeps := by
  mvcgen [quotedValue]

@[spec] theorem keeps_version : version.Keeps := by mvcgen [version]

@[spec] theorem keeps_encodingName (judge : String → Verdict) : (encodingName judge).Keeps := by
  mvcgen [encodingName]

@[spec] theorem keeps_standalone : standalone.Keeps := by mvcgen [standalone]

@[spec] theorem keeps_heading (judge : String → Verdict) : (heading judge).Keeps := by
  mvcgen [heading]

@[spec] theorem keeps_comment : comment.Keeps := by mvcgen [comment]

@[spec] theorem keeps_target : target.Keeps := by mvcgen [target]

@[spec] theorem keeps_instruction : instruction.Keeps := by mvcgen [instruction]

@[spec] theorem keeps_remarkNode? : remarkNode?.Keeps := by mvcgen [remarkNode?]

@[spec] theorem keeps_misc (fuel : Nat) (done : List Node) : (misc fuel done).Keeps := by
  induction fuel generalizing done with
  | zero => mvcgen [misc]
  | succ fuel ih => mvcgen [misc, ih]

end Prolog

section Value

@[spec] theorem keeps_valueAllowance : valueAllowance.Keeps := by mvcgen [valueAllowance]

@[spec] theorem keeps_isSettled (e : Entity) : (isSettled e).Keeps := by mvcgen [isSettled]

@[spec] theorem keeps_entityChunks (plain : Char → Char) (e : Entity) :
    (entityChunks plain e).Keeps := by
  mvcgen [entityChunks]

@[spec] theorem keeps_checkEntity (allowance : Nat) (e : Entity) :
    (checkEntity allowance e).Keeps := by
  induction allowance generalizing e with
  | zero => mvcgen [checkEntity]
  | succ n ih => mvcgen [checkEntity, ih, keeps_foldlM, -Spec.foldlM_list]

@[spec] theorem keeps_settleContent (fuel : Nat) (e : Entity) :
    (settleContent fuel e).Keeps := by
  induction fuel generalizing e with
  | zero => mvcgen [settleContent]
  | succ fuel ih => mvcgen [settleContent, ih, keeps_forIn, -Spec.forIn_list]

@[spec] theorem keeps_expandEntity (allowance : Nat) (e : Entity) :
    (expandEntity allowance e).Keeps := by
  induction allowance generalizing e with
  | zero => mvcgen [expandEntity]
  | succ n ih => mvcgen [expandEntity, ih, keeps_foldlM, -Spec.foldlM_list]

@[spec] theorem keeps_valueReference (use : ValueUse) (collapse : Bool) (v : ValueSoFar) :
    (valueReference use collapse v).Keeps := by
  mvcgen [valueReference]

@[spec] theorem keeps_valueChunks (use : ValueUse) (collapse : Bool) (quote : Char) (fuel : Nat)
    (v : ValueSoFar) : (valueChunks use collapse quote fuel v).Keeps := by
  induction fuel generalizing v with
  | zero => mvcgen [valueChunks]
  | succ fuel ih => mvcgen [valueChunks, ih]

@[spec] theorem keeps_value (use : ValueUse) (collapse : Bool) : (value use collapse).Keeps := by
  mvcgen [value]

end Value

section Subset

@[spec] theorem keeps_literal : literal.Keeps := by mvcgen [literal]

@[spec] theorem keeps_publicLiteral : publicLiteral.Keeps := by mvcgen [publicLiteral]

@[spec] theorem keeps_outside (loose : Bool) : (outside loose).Keeps := by mvcgen [outside]

@[spec] theorem keeps_parameterReference : parameterReference.Keeps := by
  mvcgen [parameterReference]

@[spec] theorem keeps_entityText (fuel : Nat) (done : List Char) :
    (entityText fuel done).Keeps := by
  induction fuel generalizing done with
  | zero => mvcgen [entityText]
  | succ fuel ih => mvcgen [entityText, ih]

@[spec] theorem keeps_entityLiteral : entityLiteral.Keeps := by mvcgen [entityLiteral]

@[spec] theorem keeps_entityValue (parameter : Bool) : (entityValue parameter).Keeps := by
  mvcgen [entityValue]

@[spec] theorem keeps_plainName : plainName.Keeps := by
  mvcgen [plainName]

@[spec] theorem keeps_occurrence : occurrence.Keeps := by mvcgen [occurrence]

@[spec] theorem keeps_members {member : Reading ContentModel} (h : member.Keeps) (fuel : Nat)
    (sequence : Option Bool) (done : List ContentModel) :
    (members member fuel sequence done).Keeps := by
  induction fuel generalizing sequence done with
  | zero => mvcgen [members]
  | succ fuel ih => mvcgen [members, ih, h]

@[spec] theorem keeps_group (depth : Nat) : (group depth).Keeps := by
  induction depth with
  | zero => mvcgen [group]
  | succ depth ih => mvcgen [group, ih]

@[spec] theorem keeps_mixedNames (fuel : Nat) (done : List ContentModel) :
    (mixedNames fuel done).Keeps := by
  induction fuel generalizing done with
  | zero => mvcgen [mixedNames]
  | succ fuel ih => mvcgen [mixedNames, ih]

@[spec] theorem keeps_mixed : mixed.Keeps := by mvcgen [mixed]

@[spec] theorem keeps_elementContent : elementContent.Keeps := by mvcgen [elementContent]

@[spec] theorem keeps_alternatives {word : Reading String} (h : word.Keeps) (fuel : Nat)
    (done : List String) : (alternatives word fuel done).Keeps := by
  induction fuel generalizing done with
  | zero => mvcgen [alternatives]
  | succ fuel ih => mvcgen [alternatives, ih, h]

@[spec] theorem keeps_word : word.Keeps := by mvcgen [word]

@[spec] theorem keeps_attributeKind : attributeKind.Keeps := by mvcgen [attributeKind]

@[spec] theorem keeps_attributeDefault (kind : AttributeKind) : (attributeDefault kind).Keeps := by
  mvcgen [attributeDefault]

@[spec] theorem keeps_addItem {item : DoctypeItem} (h : item.IsPlain) :
    (addItem item).Keeps := by
  mvcgen [addItem]
  exact List.forall_mem_cons.2 ⟨h, ‹_›⟩

@[spec] theorem keeps_entity : entity.Keeps := by
  mvcgen [entity]

@[spec] theorem keeps_element : element.Keeps := by
  mvcgen [element]

@[spec] theorem keeps_addRule {r : AttributeRule} (h : IsPlainName r.name) :
    (addRule r).Keeps := by
  have hitem : (DoctypeItem.rule r).IsPlain := h
  mvcgen [addRule] with exact fun _ _ => hitem

@[spec] theorem keeps_rules (elementName : String) (fuel : Nat) :
    (rules elementName fuel).Keeps := by
  induction fuel with
  | zero => mvcgen [rules]
  | succ fuel ih => mvcgen [rules, ih, yields_name, -keeps_name] with grind

@[spec] theorem keeps_attributeList : attributeList.Keeps := by mvcgen [attributeList]

@[spec] theorem keeps_format : format.Keeps := by mvcgen [format]

@[spec] theorem keeps_subsetItem : subsetItem.Keeps := by
  mvcgen [subsetItem] with exact fun _ _ => trivial

@[spec] theorem keeps_subset {expand : Entity → Reading Unit} (h : ∀ e, (expand e).Keeps)
    (inner : Bool) (fuel : Nat) : (subset expand inner fuel).Keeps := by
  induction fuel with
  | zero => mvcgen [subset]
  | succ fuel ih => mvcgen [subset, ih, h]

@[spec] theorem keeps_declarations (nesting : Nat) (e : Entity) :
    (declarations nesting e).Keeps := by
  induction nesting generalizing e with
  | zero => mvcgen [declarations]
  | succ n ih => mvcgen [declarations, ih]

@[spec] theorem keeps_doctype : doctype.Keeps := by mvcgen [doctype]

end Subset

end Reading

end TemplateLexer.Markup
