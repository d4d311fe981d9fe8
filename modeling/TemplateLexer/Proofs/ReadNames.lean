import TemplateLexer.Proofs.Joined

set_option autoImplicit false

namespace TemplateLexer

open Markup

namespace Markup

mutual

/-- Whether the tags in a node follow a rule about a tag and the tags above it. -/
def Node.Follows (rule : List Tag → Tag → Prop) (above : List Tag) : Node → Prop
  | .element tag children => rule above tag ∧ AllFollow rule (tag :: above) children
  | _ => True

def AllFollow (rule : List Tag → Tag → Prop) (above : List Tag) : List Node → Prop
  | [] => True
  | n :: rest => n.Follows rule above ∧ AllFollow rule above rest

end

section Trees

variable {rule : List Tag → Tag → Prop} {above : List Tag} {nodes : List Node}

theorem allFollow_nil : AllFollow rule above [] := trivial

theorem allFollow_iff : AllFollow rule above nodes ↔ ∀ n ∈ nodes, n.Follows rule above := by
  induction nodes with
  | nil => simp [AllFollow]
  | cons n rest ih => rw [AllFollow, ih, List.forall_mem_cons]

theorem AllFollow.reverse (h : AllFollow rule above nodes) :
    AllFollow rule above nodes.reverse :=
  allFollow_iff.2 fun n hn => allFollow_iff.1 h n (List.mem_reverse.1 hn)

mutual

theorem Node.Follows.of_mem_places {above : List Tag} {a : Address} {n : Node}
    (h : n.Follows rule above) : ∀ q ∈ placesOf a above n, rule q.above q.tag := by
  cases n with
  | element tag children =>
    rw [placesOf]
    exact List.forall_mem_cons.2 ⟨h.1, AllFollow.of_mem_places h.2⟩
  | text _ | cdata _ | comment _ | instruction _ _ | reference _ => simp [placesOf]

theorem AllFollow.of_mem_places {above : List Tag} {a : Address} {index : Nat}
    {nodes : List Node} (h : AllFollow rule above nodes) :
    ∀ q ∈ placesBelow a above index nodes, rule q.above q.tag := by
  cases nodes with
  | nil => simp [placesBelow]
  | cons n rest =>
    rw [placesBelow]
    exact List.forall_mem_append.2
      ⟨Node.Follows.of_mem_places h.1, AllFollow.of_mem_places h.2⟩

end

end Trees

def RefersByName (value : List Chunk) : Prop :=
  ∀ n, .reference n ∈ value → ∀ c ∈ n.toList, inName c = true

/-- What holds of the names in a tag that is read below other tags. -/
structure Tag.IsRead (above : List Tag) (t : Tag) : Prop where
  name : ∀ c ∈ t.name.written.toList, inName c = true
  values : ∀ a ∈ t.attributes, RefersByName a.value
  unqualified : t.name.uri = none → t.name.qualifier = none
  named : ∀ u, t.name.uri = some u →
    u = xmlUri ∨ ⟨t.name.qualifier, u⟩ ∈ bindings (t :: above)
  declared : ∀ d ∈ t.declarations, d.qualifier ≠ some "xml"
  bound : ∀ a ∈ t.attributes, ∀ u, a.name.uri = some u →
    u = xmlUri ∨ ∃ q, q ≠ "" ∧ ⟨some q, u⟩ ∈ bindings (t :: above)

namespace Reading

section Names

theorem returns_takeFront {recognise : List Char → Option (List Char × List Char)}
    {P : String → Prop}
    (h : ∀ cs front after, recognise cs = some (front, after) → P (String.ofList front)) :
    (takeFront recognise).Returns fun n? => ∀ n ∈ n?, P n := by
  refine returns_bind fun cs => ?_
  split
  · rename_i front after hfound
    refine returns_bind fun _ => returns_pure ?_
    rintro n ⟨⟩
    exact h cs front after hfound
  · exact returns_pure (by simp)

theorem returns_name_of {P : String → Prop}
    (h : ∀ cs front after, name? cs = some (front, after) → P (String.ofList front)) :
    name.Returns P := by
  refine returns_bind_of (returns_takeFront h) fun n? hn => ?_
  cases n? with
  | some n => exact returns_pure (hn n rfl)
  | none => exact returns_refuse

theorem returns_name : name.Returns fun n => ∀ c ∈ n.toList, inName c = true := by
  refine returns_name_of fun cs front after h => ?_
  rw [String.toList_ofList]
  exact inName_of_name? h

/-- A name in a tag as it is read. -/
structure TagName.IsRead (n : TagName) : Prop where
  chars : ∀ c ∈ n.written.toList, inName c = true
  qualifier : n.qualifier ≠ some ""

theorem written_splitName (n : List Char) : (splitName n).1.written = String.ofList n := by
  simp only [splitName]
  split
  · rfl
  · rename_i c base hrest
    split
    · have hcolon : c = ':' := by
        have hhead := List.head?_dropWhile_not (· != ':') n
        rw [hrest] at hhead
        simpa using hhead
      have hparts := List.takeWhile_append_dropWhile (p := (· != ':')) (l := n)
      rw [hrest, hcolon] at hparts
      rw [TagName.written, ← String.toList_inj]
      simpa using hparts
    · rfl

theorem qualifier_splitName (n : List Char) : (splitName n).1.qualifier ≠ some "" := by
  simp only [splitName]
  split
  · simp
  · split
    · rename_i hpart
      rw [Bool.and_eq_true] at hpart
      intro h
      have hnil : n.takeWhile (· != ':') = [] := by
        simpa using congrArg (Option.map String.toList) h
      rw [hnil] at hpart
      exact absurd hpart.1 (by simp [isPart])
    · simp

theorem returns_tagName_of {P : String → Prop} (h : name.Returns P) :
    tagName.Returns fun n => P n.written ∧ n.qualifier ≠ some "" := by
  refine returns_bind_of h fun n hn => ?_
  have hread : P (splitName n.toList).1.written ∧ (splitName n.toList).1.qualifier ≠ some "" := by
    refine ⟨?_, qualifier_splitName _⟩
    rw [written_splitName, String.ofList_toList]
    exact hn
  have hrest : (do
      if (splitName n.toList).1.qualifier.isSome && breaksOff (splitName n.toList).1.base.toList
        then refuse
      return (splitName n.toList).1 : Reading TagName).Returns
        fun n => P n.written ∧ n.qualifier ≠ some "" := by
    split
    · exact returns_bind fun _ => returns_pure hread
    · exact returns_pure hread
  simp only
  split
  · exact returns_bind fun _ => hrest
  · exact hrest

theorem returns_tagName : tagName.Returns TagName.IsRead :=
  (returns_tagName_of returns_name).mono fun _ h => ⟨h.1, h.2⟩

end Names

section Values

variable {chunks : List Chunk} {v : ValueSoFar}

theorem refersByName_nil : RefersByName [] := fun _ h => nomatch h

theorem refersByName_text_cons (s : String) :
    RefersByName (.text s :: chunks) ↔ RefersByName chunks := by
  simp [RefersByName]

theorem refersByName_reverse (h : RefersByName chunks) : RefersByName chunks.reverse :=
  fun n hn => h n (List.mem_reverse.1 hn)

theorem refersByName_addText (s : String) (h : RefersByName chunks) :
    RefersByName (addText s chunks) := by
  rw [addText.eq_def]
  split
  · exact (refersByName_text_cons _).2 ((refersByName_text_cons _).1 h)
  · split
    · exact h
    · exact (refersByName_text_cons _).2 h

theorem refersByName_add (collapse : Bool) (cs : List Char) (h : RefersByName v.chunks) :
    RefersByName (v.add collapse cs).chunks := by
  rw [ValueSoFar.add]
  split
  · exact refersByName_addText _ h
  · -- Where blanks are collapsed, the characters are added one after the other.
    induction cs generalizing v with
    | nil => exact h
    | cons c cs ih =>
      rw [List.foldl_cons]
      refine ih ?_
      split
      · exact h
      · exact refersByName_addText _ h

theorem refersByName_finish (collapse : Bool) (h : RefersByName v.chunks) :
    RefersByName (v.finish collapse) := by
  rw [ValueSoFar.finish]
  refine refersByName_reverse ?_
  split
  · rename_i s rest hchunks
    rw [hchunks] at h
    have hrest := (refersByName_text_cons s).1 h
    split
    · dsimp only
      split
      · exact hrest
      · exact (refersByName_text_cons _).2 hrest
    · exact h
  · exact h

theorem returns_valueReference (use : ValueUse) (collapse : Bool) (h : RefersByName v.chunks) :
    (valueReference use collapse v).Returns fun v => RefersByName v.chunks := by
  have hname : referenceName.Returns fun n => ∀ c ∈ n.toList, inName c = true :=
    returns_bind_of returns_name fun n hn => returns_bind fun _ => returns_pure hn
  refine returns_bind_of hname fun n hn => ?_
  have hrefer : RefersByName (v.refer n).chunks := by
    intro m hm
    rcases List.mem_cons.1 hm with hsame | hm
    · cases hsame
      exact hn
    · exact h m hm
  split
  · exact returns_pure (refersByName_add _ _ h)
  · refine returns_bind fun e? => ?_
    split
    · exact returns_pure h
    · rename_i e
      split
      · exact returns_bind fun _ => returns_bind fun _ => returns_pure (refersByName_add _ _ h)
      · refine returns_bind fun settled => ?_
        have hlast : (do
            count (← standing e).size
            if use = .ordinary then settleContent ((← get).items.length + 1) e
            return v.refer n : Reading ValueSoFar).Returns fun v => RefersByName v.chunks := by
          refine returns_bind fun _ => returns_bind fun _ => ?_
          split
          · exact returns_bind fun _ => returns_bind fun _ => returns_pure hrefer
          · exact returns_pure hrefer
        dsimp only
        split
        · exact returns_bind fun _ => returns_bind fun _ => hlast
        · exact hlast

theorem returns_valueChunks (use : ValueUse) (collapse : Bool) (quote : Char) (fuel : Nat)
    (h : RefersByName v.chunks) : (valueChunks use collapse quote fuel v).Returns RefersByName := by
  induction fuel generalizing v with
  | zero => exact returns_refuse
  | succ fuel ih =>
    refine returns_bind fun part => ?_
    have hpart := refersByName_add collapse
      ((plainBreaks part).map fun c => if isBlank c then ' ' else c) h
    refine returns_bind fun ends => ?_
    split
    · exact returns_pure (refersByName_finish collapse hpart)
    · refine returns_bind fun isCharacter => ?_
      split
      · exact returns_bind fun c => ih (refersByName_add collapse [c] hpart)
      · refine returns_bind fun isReference => ?_
        split
        · exact returns_bind_of (returns_valueReference use collapse hpart) fun v hv => ih hv
        · exact returns_refuse

theorem returns_value (use : ValueUse) (collapse : Bool) :
    (value use collapse).Returns RefersByName := by
  refine returns_bind fun quote => returns_bind fun ends => ?_
  split
  · exact returns_pure ((refersByName_text_cons "").2 refersByName_nil)
  · exact returns_bind fun cs => returns_valueChunks use collapse quote _ refersByName_nil

end Values

section Parts

structure WrittenAttribute.IsRead (a : WrittenAttribute) : Prop where
  name : a.name.IsRead
  value : RefersByName a.value

/-- The parts of a tag as they are read. -/
structure TagParts.AreRead (parts : TagParts) : Prop where
  declared : ∀ d ∈ parts.declarations, d.qualifier ≠ some "xml"
  attributes : ∀ a ∈ parts.attributes, a.IsRead

theorem returns_writtenAttribute (elementName : String) :
    (writtenAttribute elementName).Returns WrittenAttribute.IsRead := by
  refine returns_bind_of returns_tagName fun n hn => ?_
  refine returns_bind fun s => returns_bind fun _ => ?_
  refine returns_bind_of (returns_value _ _) fun chunks hchunks => ?_
  split
  · split
    · exact returns_bind fun _ => returns_pure ⟨hn, hchunks⟩
    · exact returns_pure ⟨hn, hchunks⟩
  · exact returns_pure ⟨hn, hchunks⟩

theorem returns_declaration (qualifier : Option String) (uri : String) :
    (declaration qualifier uri).Returns fun d? => ∀ d ∈ d?, d.qualifier ≠ some "xml" := by
  have hnone : ∀ d ∈ (none : Option Declaration), d.qualifier ≠ some "xml" := by simp
  rw [declaration.eq_def]
  split
  · split
    · exact returns_bind fun _ => returns_pure hnone
    · exact returns_pure hnone
  · rename_i hxml
    have hsome : ∀ d ∈ some (⟨qualifier, uri⟩ : Declaration), d.qualifier ≠ some "xml" := by
      rintro d ⟨⟩
      simpa using hxml
    split
    · exact returns_bind fun _ => returns_pure hnone
    · split
      · split
        · exact returns_bind fun _ => returns_pure hnone
        · exact returns_bind fun _ => returns_pure hsome
      · split
        · exact returns_bind fun _ => returns_pure hsome
        · exact returns_pure hsome

theorem returns_sortAttribute {parts : TagParts} {a : WrittenAttribute} (hparts : parts.AreRead)
    (ha : a.IsRead) : (sortAttribute parts a).Returns TagParts.AreRead := by
  rw [sortAttribute]
  split
  · refine returns_bind_of (returns_declaration _ _) fun d? hd => ?_
    cases d? with
    | none => exact returns_pure hparts
    | some d =>
      simp only
      split
      · exact returns_refuse
      · exact returns_pure
          ⟨List.forall_mem_cons.2 ⟨hd d rfl, hparts.declared⟩, hparts.attributes⟩
  · exact returns_pure ⟨hparts.declared, List.forall_mem_cons.2 ⟨ha, hparts.attributes⟩⟩

theorem returns_tagParts_of {P : TagParts → Prop}
    (hsort : ∀ parts a, a.IsRead → P parts → (sortAttribute parts a).Returns P)
    (elementName : String) (fuel : Nat) {parts : TagParts} (h : P parts) :
    (tagParts elementName fuel parts).Returns P := by
  induction fuel generalizing parts with
  | zero => exact returns_refuse
  | succ fuel ih =>
    refine returns_bind fun ends => returns_bind fun closes => ?_
    split
    · exact returns_pure h
    · refine returns_bind_of (returns_writtenAttribute elementName) fun a ha => ?_
      refine returns_bind_of (hsort parts a ha h) fun parts hparts => ?_
      refine returns_bind fun gap => returns_bind fun ends => returns_bind fun closes => ?_
      split
      · exact returns_pure hparts
      · simp only
        split
        · exact returns_bind fun _ => ih hparts
        · exact ih hparts

theorem returns_tagParts (elementName : String) (fuel : Nat) {parts : TagParts}
    (h : parts.AreRead) : (tagParts elementName fuel parts).Returns TagParts.AreRead :=
  returns_tagParts_of (fun _ _ ha hparts => returns_sortAttribute hparts ha) elementName fuel h

/-- Rules bind only qualifiers that are not bound yet, and not that of the markup language
itself. -/
theorem withGiven_induction {P : List Declaration → Prop} {given : List (TagName × String)}
    {own : List Declaration} (h : P own)
    (hadd : ∀ ds q uri, q ≠ some "xml" → q ∉ ds.map (·.qualifier) → P ds → P (ds ++ [⟨q, uri⟩])) :
    P (withGiven given own) := by
  rw [withGiven]
  induction given generalizing own with
  | nil => exact h
  | cons g given ih =>
    refine ih ?_
    simp only
    split
    · rename_i q hq
      split
      · exact h
      · rename_i hnew
        rw [Bool.or_eq_true, not_or] at hnew
        exact hadd own q g.2 (by simpa using hnew.1) (by simpa using hnew.2) h
    · exact h

theorem declared_withGiven {given : List (TagName × String)} {own : List Declaration}
    (h : ∀ d ∈ own, d.qualifier ≠ some "xml") :
    ∀ d ∈ withGiven given own, d.qualifier ≠ some "xml" :=
  withGiven_induction (P := fun ds => ∀ d ∈ ds, d.qualifier ≠ some "xml") h
    fun _ _ _ hxml _ hds => List.forall_mem_append.2 ⟨hds, List.forall_mem_singleton.2 hxml⟩

end Parts

section Tags

variable {tags : List Tag}

/-- What a name in a tag becomes below some tags. An element may have a namespace without a
qualifier, an attribute may not. -/
structure IsResolved (tags : List Tag) (forElement : Bool) (n : TagName) (m : Name) : Prop where
  written : m.written = n.written
  unqualified : m.uri = none → m.qualifier = none
  qualified : forElement = false → m.uri.isSome = true → ∃ q, m.qualifier = some q
  qualifier : ∀ q, m.qualifier = some q → n.qualifier = some q
  bound : ∀ u, m.uri = some u → u = xmlUri ∨ ⟨m.qualifier, u⟩ ∈ bindings tags

theorem isResolved_bare (forElement : Bool) (n : TagName) :
    IsResolved tags forElement n (.bare n.written) :=
  ⟨rfl, fun _ => rfl, fun _ => nofun, fun _ => nofun, fun _ => nofun⟩

theorem isResolved_of_binding? {forElement : Bool} {n : TagName} {d : Declaration}
    (hq : forElement = false → n.qualifier.isSome = true)
    (h : binding? n.qualifier tags = some d) :
    IsResolved tags forElement n ⟨n.qualifier, some d.uri, n.base⟩ := by
  have hqualifier : d.qualifier = n.qualifier := by simpa using List.find?_some h
  refine ⟨rfl, nofun, fun hf _ => Option.isSome_iff_exists.1 (hq hf),
    fun _ h => h, fun u hu => .inr ?_⟩
  cases hu
  rw [← hqualifier]
  exact List.mem_of_find?_eq_some h

theorem returns_resolve (tags : List Tag) (forElement : Bool) (n : TagName) :
    (resolve tags forElement n).Returns (IsResolved tags forElement n) := by
  have hbare : n.qualifier = none → IsResolved tags forElement n (.bare n.base) := by
    intro hq
    have hwritten : n.base = n.written := by rw [TagName.written, hq]
    exact hwritten ▸ isResolved_bare forElement n
  fun_cases resolve tags forElement n with
  | case1 hxml =>
    refine returns_pure ⟨?_, fun h => ?_, fun _ _ => ⟨_, rfl⟩, fun _ hq => hxml.trans hq,
      fun u hu => .inl (Option.some.inj hu).symm⟩
    · rw [Name.written, TagName.written, hxml]
    · cases h
  | case2 q hne hq d hd =>
    rw [← hq] at hd ⊢
    exact returns_pure (isResolved_of_binding? (fun _ => hq ▸ rfl) hd)
  | case3 q hne hq hd => exact returns_bind fun _ => returns_pure (isResolved_bare forElement n)
  | case4 hq helement d hd =>
    split
    · exact returns_pure (hbare hq)
    · rw [← hq] at hd ⊢
      exact returns_pure
        (isResolved_of_binding? (fun hf => absurd (helement.symm.trans hf) (by decide)) hd)
  | case5 hq helement hd => exact returns_pure (hbare hq)
  | case6 hq helement => exact returns_pure (hbare hq)

theorem returns_mapM {α β : Type} {P : β → Prop} {f : α → Reading β} {xs : List α}
    (h : ∀ x ∈ xs, (f x).Returns P) : (xs.mapM f).Returns fun ys => ∀ y ∈ ys, P y := by
  induction xs with
  | nil =>
    rw [List.mapM_nil]
    exact returns_pure (by simp)
  | cons x xs ih =>
    rw [List.mapM_cons]
    obtain ⟨hx, hxs⟩ := List.forall_mem_cons.1 h
    exact returns_bind_of hx fun y hy => returns_bind_of (ih hxs) fun ys hys =>
      returns_pure (List.forall_mem_cons.2 ⟨hy, hys⟩)

/-- What the names in a tag become. Only declarations decide what is bound, so that a tag binds the
same before it is named. -/
theorem returns_openingTag_resolved (above : List Tag) :
    (openingTag above).Returns fun t => ∃ bare : Tag, bare.declarations = t.2.declarations
      ∧ (∀ d ∈ bare.declarations, d.qualifier ≠ some "xml")
      ∧ (∃ n : TagName, n.IsRead ∧ IsResolved (bare :: above) true n t.2.name)
      ∧ ∀ a ∈ t.2.attributes, ∃ b : WrittenAttribute, b.IsRead ∧ b.value = a.value
        ∧ IsResolved (bare :: above) false b.name a.name := by
  refine returns_bind fun _ => returns_bind_of returns_tagName fun n hn => ?_
  refine returns_bind fun _ => returns_bind fun cs => ?_
  refine returns_bind_of (returns_tagParts n.written _ ⟨by simp, by simp⟩) fun parts hparts => ?_
  refine returns_bind fun given => ?_
  simp only
  generalize hbare : (⟨.bare n.base, withGiven given parts.declarations.reverse, [], 0⟩ : Tag)
    = bare
  have hnamed : (parts.attributes.reverse.mapM fun a : WrittenAttribute => do
        return (a, ← resolve (bare :: above) false a.name)).Returns
      fun named => ∀ x ∈ named, x.1.IsRead ∧ IsResolved (bare :: above) false x.1.name x.2 :=
    returns_mapM fun a ha => returns_bind_of (returns_resolve _ _ _) fun m hm =>
      returns_pure ⟨hparts.attributes a (List.mem_reverse.1 ha), hm⟩
  refine returns_bind_of hnamed fun named hnamed => ?_
  refine returns_bind fun _ => returns_bind fun _ => ?_
  refine returns_bind_of (returns_resolve _ _ _) fun m hm => ?_
  refine returns_bind fun _ => returns_bind fun s => returns_pure
    ⟨bare, by rw [← hbare], ?_, ⟨n, hn, hm⟩, ?_⟩
  · rw [← hbare]
    exact declared_withGiven fun d hd => hparts.declared d (List.mem_reverse.1 hd)
  · intro a ha
    obtain ⟨⟨b, k⟩, hx, rfl⟩ := List.mem_map.1 ha
    obtain ⟨hb, hresolved⟩ := hnamed _ hx
    exact ⟨b, hb, rfl, hresolved⟩

theorem bindings_cons_congr {s t : Tag} (h : s.declarations = t.declarations) (above : List Tag) :
    bindings (s :: above) = bindings (t :: above) := by
  rw [bindings, bindings, List.foldl_cons, List.foldl_cons, h]

theorem IsResolved.exists_qualifier {n : TagName} {m : Name} (hread : n.IsRead)
    (h : IsResolved tags false n m) {u : String} (hu : m.uri = some u) :
    ∃ q, m.qualifier = some q ∧ q ≠ "" ∧ (u = xmlUri ∨ ⟨some q, u⟩ ∈ bindings tags) := by
  obtain ⟨q, hq⟩ := h.qualified rfl (Option.isSome_iff_exists.2 ⟨u, hu⟩)
  refine ⟨q, hq, ?_, hq ▸ h.bound u hu⟩
  rintro rfl
  exact hread.qualifier (h.qualifier _ hq)

theorem returns_openingTag (above : List Tag) :
    (openingTag above).Returns fun t => t.2.IsRead above := by
  refine Returns.mono (returns_openingTag_resolved above) ?_
  rintro t ⟨bare, hdeclarations, hdeclared, ⟨n, hn, hm⟩, hnamed⟩
  have hbindings := bindings_cons_congr hdeclarations above
  refine ⟨?_, fun a ha => ?_, hm.unqualified, fun u hu => hbindings ▸ hm.bound u hu,
    hdeclarations ▸ hdeclared, ?_⟩
  · rw [hm.written]
    exact hn.chars
  · obtain ⟨b, hb, hvalue, -⟩ := hnamed a ha
    exact hvalue ▸ hb.value
  · intro a ha u hu
    obtain ⟨b, hb, -, hresolved⟩ := hnamed a ha
    obtain ⟨q, -, hne, hbound⟩ := hresolved.exists_qualifier hb.name hu
    exact hbound.imp_right fun hmem => ⟨q, hne, hbindings ▸ hmem⟩

end Tags

theorem lasts_allFollow (rule : List Tag → Tag → Prop) : Lasts rule (AllFollow rule) where
  nil := allFollow_nil
  leaf := fun {_ _ n} helement _ h => by
    refine ⟨?_, h⟩
    cases n with
    | element _ _ => cases helement
    | text _ | cdata _ | comment _ | instruction _ _ | reference _ => trivial
  characters := fun s h => by
    rw [addCharacters.eq_def]
    split
    · exact ⟨trivial, h.2⟩
    · split
      · exact h
      · exact ⟨trivial, h⟩
  element := fun htag hinside hbefore => ⟨⟨htag, hinside.reverse⟩, hbefore⟩

end Reading

end Markup

namespace Source

/-- The tags of a document that was loaded are as they were read. -/
theorem isRead_of_load {source : Source} {file : Option String} {d : Document}
    (h : source.load file = .ok d) : ∀ q ∈ d.root.places, q.tag.IsRead q.above := by
  obtain ⟨judge, encoding, cs, s, hdocument⟩ := exists_document_of_load h
  have hroot := (Reading.lasts_allFollow Tag.IsRead).returns_document Reading.returns_openingTag
    judge encoding
  exact (hroot _ _ _ hdocument).1.of_mem_places

end Source

end TemplateLexer
