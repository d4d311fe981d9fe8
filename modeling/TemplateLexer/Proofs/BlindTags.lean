import TemplateLexer.Proofs.BlindSteps

set_option autoImplicit false

set_option synthInstance.maxSize 20000

namespace TemplateLexer.Markup

namespace Reading

variable {β : Type} {k c : Prop}

section Subset

instance blind_literal : Blind k c literal := by
  unfold literal
  infer_instance

instance blind_publicLiteral : Blind k c publicLiteral := by
  unfold publicLiteral
  infer_instance

instance blind_outside {loose : Bool} : Blind k c (outside loose) := by
  unfold outside
  infer_instance

instance blind_parameterReference : Blind k c parameterReference := by
  unfold parameterReference
  have hincomplete : Blind k c (modify fun s => { s with incomplete := true }) := by
    refine blind_modify (fun s t h => ?_) fun _ => rfl
    exact ⟨h.here, h.outer, h.items, h.standalone, rfl, h.declaring, h.standings, h.ids,
      h.referred, h.remarks⟩
  refine blind_referenceName.bind fun n => hincomplete.bind fun _ => ?_
  refine blind_get (h := fun s => ?_) fun s t h => ?_
  · split
    · infer_instance
    · infer_instance
  · rw [h.items]

theorem declaresEntity_of_parameterReference {e : Entity} {s s' : Input}
    (h : parameterReference s = .ok (some e, s')) : s'.DeclaresEntity := by
  obtain ⟨n, mid, -, h₁⟩ := stateT_bind_ok h
  obtain ⟨_, mid', hmid, h₂⟩ := stateT_bind_ok h₁
  obtain ⟨v, mid'', hv, h₃⟩ := stateT_bind_ok h₂
  cases hv
  cases he : entityIn? mid'.items true n with
  | none =>
    simp only [he] at h₃
    obtain ⟨_, _, -, h₄⟩ := stateT_bind_ok h₃
    cases h₄
  | some e' =>
    simp only [he] at h₃
    cases h₃
    exact ⟨e, entityIn?_mem he⟩

instance blind_parameterReference_bind {f : Option Entity → Reading β} [h : Blind k c (f none)]
    [i : ∀ e, Blind True c (f (some e))] : Blind k c (parameterReference >>= f) :=
  ⟨follows_bind_entity (fun _ _ _ => declaresEntity_of_parameterReference) h.follows
    fun e => (i e).follows⟩

instance blind_entityText {fuel : Nat} {done : List Char} : Blind k c (entityText fuel done) := by
  induction fuel generalizing done with
  | zero => exact blind_refuse
  | succ fuel ih =>
    unfold entityText
    refine blind_rest.bind fun cs => ?_
    split
    · infer_instance
    · infer_instance
    · infer_instance
    · infer_instance
    · infer_instance

instance blind_entityLiteral : Blind k c entityLiteral := by
  have hrest : ∀ cs : List Char, Blind k c (modify fun s =>
      { s with here := { s.here with rest := cs } }) := by
    intro cs
    refine blind_modify (fun s t h => ?_) fun _ => rfl
    exact ⟨⟨rfl, h.here.entity⟩, h.outer, h.items, h.standalone, h.incomplete, h.declaring,
      h.standings, h.ids, h.referred, h.remarks⟩
  unfold entityLiteral
  infer_instance

instance blind_entityValue {parameter : Bool} : Blind k c (entityValue parameter) := by
  unfold entityValue
  refine blind_sees.bind fun _ => blind_sees.bind fun _ => blind_ite (i := ?_)
  refine blind_outside.bind fun ids => ?_
  split
  · infer_instance
  · infer_instance

instance blind_addItem {item : DoctypeItem} : Blind k False (addItem item) := by
  refine ⟨follows_modify (fun s t h => ?_) (fun s => ?_) False.elim⟩
  · exact ⟨h.here, h.outer, by simp only [h.items], h.standalone, h.incomplete, h.declaring,
      h.standings, h.ids, h.referred, h.remarks⟩
  · rintro ⟨e, he⟩
    exact ⟨e, List.mem_cons_of_mem _ he⟩

instance blind_plainName : Blind k c plainName := by
  unfold plainName
  infer_instance

instance blind_entity : Blind k False entity := by
  unfold entity
  refine blind_need.bind fun _ => blind_needBlanks.bind fun _ => ?_
  refine blind_passes.bind fun parameter => ?_
  have hafter : Blind k False (do
      let n ← plainName
      needBlanks
      let e : Entity := ⟨parameter, n, ← entityValue parameter⟩
      if !keepsNamed e then remark .warning
      else if (entityIn? (← get).items parameter n).isNone then addItem (.entity e)
      discard blanks
      need ">") := by
    refine blind_plainName.bind fun n => blind_needBlanks.bind fun _ => ?_
    refine blind_entityValue.bind fun value => blind_ite (i := blind_get fun s t h => ?_)
    rw [h.items]
  exact blind_ite

instance blind_occurrence : Blind k c occurrence := by
  unfold occurrence
  infer_instance

instance blind_members {member : Reading ContentModel} [h : Blind k c member] {fuel : Nat}
    {sequence : Option Bool} {done : List ContentModel} :
    Blind k c (members member fuel sequence done) := by
  induction fuel generalizing sequence done with
  | zero => exact blind_refuse
  | succ fuel ih =>
    unfold members
    infer_instance

instance blind_group {depth : Nat} : Blind k c (group depth) := by
  induction depth with
  | zero => exact blind_refuse
  | succ depth ih =>
    unfold group
    infer_instance

instance blind_mixedNames {fuel : Nat} {done : List ContentModel} :
    Blind k c (mixedNames fuel done) := by
  induction fuel generalizing done with
  | zero => exact blind_refuse
  | succ fuel ih =>
    unfold mixedNames
    infer_instance

instance blind_mixed : Blind k c mixed := by
  unfold mixed
  infer_instance

instance blind_elementContent : Blind k c elementContent := by
  unfold elementContent
  infer_instance

instance blind_element : Blind k False element := by
  unfold element
  refine blind_need.bind fun _ => blind_needBlanks.bind fun _ => blind_name.bind fun n => ?_
  refine blind_needBlanks.bind fun _ => blind_elementContent.bind fun content => ?_
  refine blind_discard.bind fun _ => blind_need.bind fun _ => blind_get fun s t h => ?_
  rw [h.items]

instance blind_alternatives {word : Reading String} [h : Blind k c word] {fuel : Nat}
    {done : List String} : Blind k c (alternatives word fuel done) := by
  induction fuel generalizing done with
  | zero => exact blind_refuse
  | succ fuel ih =>
    unfold alternatives
    infer_instance

instance blind_word : Blind k c word := by
  unfold word
  infer_instance

instance blind_attributeKind : Blind k c attributeKind := by
  unfold attributeKind
  iterate 8 refine blind_passes.bind fun _ => blind_ite (i := ?_)
  infer_instance

instance blind_attributeDefault {kind : AttributeKind} : Blind k c (attributeDefault kind) := by
  unfold attributeDefault
  infer_instance

instance blind_addRule {r : AttributeRule} : Blind k False (addRule r) := by
  unfold addRule
  have hadd : Blind k False (do
      let rules := rulesIn (← get).items r.element
      if rules.any (·.name == r.name) then remark .warning
      else
        if r.kind = .id && rules.any (·.kind == .id) then remark .fault
        addItem (.rule r)) := by
    refine blind_get fun s t h => ?_
    rw [h.items]
  infer_instance

instance blind_rules {elementName : String} {fuel : Nat} :
    Blind k False (rules elementName fuel) := by
  induction fuel with
  | zero => exact blind_refuse
  | succ fuel ih =>
    unfold rules
    infer_instance

instance blind_attributeList : Blind k False attributeList := by
  unfold attributeList
  infer_instance

instance blind_format : Blind k False format := by
  unfold format
  refine blind_need.bind fun _ => blind_needBlanks.bind fun _ => blind_plainName.bind fun n => ?_
  refine blind_needBlanks.bind fun _ => blind_outside.bind fun ids => ?_
  refine blind_discard.bind fun _ => blind_need.bind fun _ => blind_ite (h := ?_) (i := ?_)
  · infer_instance
  · refine blind_get fun s t h => ?_
    rw [h.items]

instance blind_subsetItem : Blind k False subsetItem := by
  unfold subsetItem
  refine blind_sees.bind fun _ => blind_ite (i := blind_sees.bind fun _ => blind_ite (i := ?_))
  refine blind_sees.bind fun _ => blind_ite (i := blind_sees.bind fun _ => blind_ite (i := ?_))
  refine blind_remarkNode?.bind fun n => ?_
  split
  · infer_instance
  · infer_instance
  · infer_instance

instance blind_subset {expand : Entity → Reading Unit} [h : ∀ e, Blind True False (expand e)]
    {inner : Bool} {fuel : Nat} : Blind k False (subset expand inner fuel) := by
  induction fuel generalizing k with
  | zero => exact blind_refuse
  | succ fuel ih =>
    unfold subset
    refine blind_discard.bind fun _ => blind_rest.bind fun _ => blind_ite (i := ?_)
    refine blind_passes.bind fun _ => blind_ite (i := blind_passes.bind fun _ => ?_)
    refine blind_ite (h := blind_parameterReference_bind (i := fun e => ?_))
    exact (h e).bind fun _ => ih

instance blind_declarations {nesting : Nat} {e : Entity} :
    Blind True False (declarations nesting e) := by
  induction nesting generalizing e with
  | zero => exact blind_refuse
  | succ n ih =>
    unfold declarations
    split
    · infer_instance
    · exact blind_pure

instance blind_doctype : Blind k False doctype := by
  have hincomplete : Blind k False (modify fun s => { s with incomplete := true }) := by
    refine blind_modify (fun s t h => ?_) fun _ => rfl
    exact ⟨h.here, h.outer, h.items, h.standalone, rfl, h.declaring, h.standings, h.ids,
      h.referred, h.remarks⟩
  have hdeclaring : ∀ b, Blind k False (modify fun s => { s with declaring := b }) := by
    intro b
    refine blind_modify (fun s t h => ?_) fun _ => rfl
    exact ⟨h.here, h.outer, h.items, h.standalone, h.incomplete, rfl, h.standings, h.ids,
      h.referred, h.remarks⟩
  have hend : ∀ (n : String) (ids : Option String × Option String), Blind k False (do
      need ">"
      return (⟨n, ids.1, ids.2, (← get).items.reverse⟩ : Doctype)) := by
    intro n ids
    refine blind_need.bind fun _ => blind_get fun s t h => ?_
    rw [h.items]
  unfold doctype
  refine blind_need.bind fun _ => blind_needBlanks.bind fun _ => blind_name.bind fun n => ?_
  refine blind_discard.bind fun _ => blind_outside.bind fun ids => ?_
  infer_instance

end Subset

section Tag

instance blind_tagName : Blind k c tagName := by
  unfold tagName
  infer_instance

instance blind_writtenAttribute {elementName : String} :
    Blind k c (writtenAttribute elementName) := by
  unfold writtenAttribute
  refine blind_tagName.bind fun n => blind_get fun s t h => ?_
  rw [h.items]

instance blind_checkUri {qualifier : Option String} {uri : String} :
    Blind k c (checkUri qualifier uri) := by
  unfold checkUri
  infer_instance

instance blind_declaration {qualifier : Option String} {uri : String} :
    Blind k c (declaration qualifier uri) := by
  unfold declaration
  refine blind_ite (i := blind_ite (i := ?_))
  split
  · infer_instance
  · infer_instance

instance blind_sortAttribute {parts : TagParts} {a : WrittenAttribute} :
    Blind k c (sortAttribute parts a) := by
  unfold sortAttribute
  split
  · refine blind_declaration.bind fun d => ?_
    split
    · infer_instance
    · infer_instance
  · infer_instance

instance blind_tagParts {elementName : String} {fuel : Nat} {parts : TagParts} :
    Blind k c (tagParts elementName fuel parts) := by
  induction fuel generalizing parts with
  | zero => exact blind_refuse
  | succ fuel ih =>
    unfold tagParts
    infer_instance

instance blind_givenAttributes {elementName : String} :
    Blind k c (givenAttributes elementName) := by
  refine blind_get fun s t h => ?_
  rw [h.items]

instance blind_resolve {tags : List Tag} {forElement : Bool} {n : TagName} :
    Blind k c (resolve tags forElement n) := by
  unfold resolve
  split
  · exact blind_pure
  · split
    · exact blind_pure
    · infer_instance
  · refine blind_ite (h := ?_)
    split
    · exact blind_pure
    · exact blind_pure

instance blind_checkDistinct {attributes : List (WrittenAttribute × Name)} :
    Blind k c (checkDistinct attributes) := by
  induction attributes with
  | nil => exact blind_pure
  | cons a attributes ih =>
    unfold checkDistinct
    infer_instance

instance blind_checkGiven {tags : List Tag} {given : List (TagName × String)} :
    Blind k c (checkGiven tags given) := by
  unfold checkGiven
  infer_instance

instance blind_checkIds {elementName : String} {attributes : List (WrittenAttribute × Name)} :
    Blind k c (checkIds elementName attributes) := by
  have hadd : ∀ v : String, Blind k c (modify fun s => { s with ids := v :: s.ids }) := by
    intro v
    refine blind_modify (fun s t h => ?_) fun _ => rfl
    exact ⟨h.here, h.outer, h.items, h.standalone, h.incomplete, h.declaring, h.standings,
      by simp only [h.ids], h.referred, h.remarks⟩
  have hknown : ∀ v : String, Blind k c (do
      if (← get).ids.contains v then
        remark .fault
        pure (ForInStep.yield PUnit.unit)
      else if !v.isEmpty then
        modify fun s => { s with ids := v :: s.ids }
        pure (ForInStep.yield PUnit.unit)
      else pure (ForInStep.yield PUnit.unit)) := by
    intro v
    refine blind_get fun s t h => ?_
    rw [h.ids]
  unfold checkIds
  refine blind_get (h := fun s => blind_ite (i := ?_)) fun s t h => ?_
  · refine Blind.bind (blind_forIn (h := fun a _ => ?_)) fun _ => blind_pure
    obtain ⟨a, n⟩ := a
    dsimp only
    split
    · refine blind_get fun s t h => ?_
      rw [h.items]
    · exact blind_pure
  · have houter : s.outer.isEmpty = t.outer.isEmpty := by
      rw [Bool.eq_iff_iff, List.isEmpty_iff_length_eq_zero, List.isEmpty_iff_length_eq_zero,
        h.outer.length_eq]
    rw [houter]

instance blind_closingTag {opened : TagName} : Blind k c (closingTag opened) := by
  unfold closingTag
  refine blind_need.bind fun _ => blind_rest.bind fun cs => blind_ite (h := ?_)
  refine blind_rest.bind fun cs => ?_
  split
  · infer_instance
  · infer_instance

end Tag

end Reading

end TemplateLexer.Markup
