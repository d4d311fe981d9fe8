import TemplateLexer.Proofs.ContentItems
import TemplateLexer.Proofs.Joined
import TemplateLexer.Proofs.ReadingSteps

set_option autoImplicit false

set_option mvcgen.warning false

open Std.Do

namespace TemplateLexer

open Markup

namespace Markup

def Element.HoldsPlain (root : Element) : Prop :=
  ∀ q ∈ root.places, ∀ n ∈ q.element.children, n.IsPlain

instance : DecidablePred Element.HoldsPlain := fun root =>
  inferInstanceAs (Decidable (∀ q ∈ root.places, ∀ n ∈ q.element.children, n.IsPlain))

mutual

def Node.IsAllPlain : Node → Prop
  | .element tag children => (∀ d ∈ tag.declarations, d.IsPlain) ∧ AreAllPlain children
  | n => n.IsPlain

def AreAllPlain : List Node → Prop
  | [] => True
  | n :: rest => n.IsAllPlain ∧ AreAllPlain rest

end

section Trees

variable {n : Node} {nodes : List Node}

theorem areAllPlain_nil : AreAllPlain [] := trivial

theorem areAllPlain_iff : AreAllPlain nodes ↔ ∀ n ∈ nodes, n.IsAllPlain := by
  induction nodes with
  | nil => simp [AreAllPlain]
  | cons n rest ih => rw [AreAllPlain, ih, List.forall_mem_cons]

theorem Node.IsAllPlain.isPlain (h : n.IsAllPlain) : n.IsPlain := by
  cases n with
  | element tag children => exact h.1
  | text _ | cdata _ | comment _ | instruction _ _ | reference _ => exact h

theorem Element.isAllPlain_of_mem_places {root : Element} (h : root.node.IsAllPlain) :
    ∀ q ∈ root.places, q.element.node.IsAllPlain := by
  have hdown : ∀ e : Element, e.node.IsAllPlain → ∀ tag children,
      .element tag children ∈ e.children → Node.IsAllPlain (.element tag children) :=
    fun _ he _ _ hn => areAllPlain_iff.1 he.2 _ hn
  exact Element.forall_mem_places hdown h

theorem Element.holdsPlain_of_isAllPlain {root : Element} (h : root.node.IsAllPlain) :
    root.HoldsPlain :=
  fun q hq n hn => (areAllPlain_iff.1 (isAllPlain_of_mem_places h q hq).2 n hn).isPlain

end Trees

namespace Reading

section Sections

variable {cs t : List Char}

theorem sectionEnd?_eq_none_of_forall (h : ∀ t, t <:+ cs → ¬Content.sectionStop <+: t) :
    Content.sectionEnd? cs = none := by
  induction cs with
  | nil => rfl
  | cons c cs ih =>
    have hhere : ¬Content.sectionStop.isPrefixOf (c :: cs) = true := by
      rw [List.isPrefixOf_iff_prefix]
      exact h _ (List.suffix_refl _)
    rw [Content.sectionEnd?, if_neg hhere,
      ih fun t ht => h t (ht.trans (List.suffix_cons c cs))]
    rfl

theorem exists_suffix_of_plainBreaks (h : t <:+ plainBreaks cs) :
    ∃ u, u <:+ cs ∧ t = plainBreaks u := by
  fun_induction plainBreaks cs with
  | case1 cs ih =>
    rcases List.suffix_cons_iff.1 h with rfl | h
    · exact ⟨_, List.suffix_refl _, by rw [plainBreaks]⟩
    · obtain ⟨u, hu, rfl⟩ := ih h
      exact ⟨u, hu.trans ⟨['\r', '\n'], rfl⟩, rfl⟩
  | case2 cs hcs ih =>
    rcases List.suffix_cons_iff.1 h with rfl | h
    · exact ⟨_, List.suffix_refl _, by rw [plainBreaks]; exact hcs⟩
    · obtain ⟨u, hu, rfl⟩ := ih h
      exact ⟨u, hu.trans (List.suffix_cons _ _), rfl⟩
  | case3 c cs hbreak hreturn ih =>
    rcases List.suffix_cons_iff.1 h with rfl | h
    · exact ⟨_, List.suffix_refl _, by rw [plainBreaks] <;> assumption⟩
    · obtain ⟨u, hu, rfl⟩ := ih h
      exact ⟨u, hu.trans (List.suffix_cons _ _), rfl⟩
  | case4 => exact ⟨[], List.suffix_refl _, by simpa [plainBreaks] using h⟩

theorem eq_cons_of_plainBreaks {c : Char} (hc : c ≠ '\n') (h : plainBreaks cs = c :: t) :
    ∃ u, cs = c :: u ∧ plainBreaks u = t := by
  revert h
  fun_cases plainBreaks cs with
  | case1 cs => exact fun h => absurd (List.cons.inj h).1.symm hc
  | case2 cs _ => exact fun h => absurd (List.cons.inj h).1.symm hc
  | case3 d cs _ _ =>
    intro h
    cases h
    exact ⟨cs, rfl, rfl⟩
  | case4 => exact fun h => nomatch h

theorem sectionStop_prefix_of_plainBreaks (h : Content.sectionStop <+: plainBreaks cs) :
    Content.sectionStop <+: cs := by
  rw [Content.sectionStop_eq] at h ⊢
  obtain ⟨more, h⟩ := h
  obtain ⟨u, rfl, hu⟩ := eq_cons_of_plainBreaks (by decide) h.symm
  obtain ⟨v, rfl, hv⟩ := eq_cons_of_plainBreaks (by decide) hu
  obtain ⟨w, rfl, -⟩ := eq_cons_of_plainBreaks (by decide) hv
  exact ⟨w, rfl⟩

def IsCutBy (stop : List Char → Bool) (front after : List Char) : Prop :=
  ∀ t, t <:+ front → t ≠ [] → stop (t ++ after) = false

theorem isCutBy_nil (stop : List Char → Bool) (after : List Char) : IsCutBy stop [] after :=
  fun _ ht hne => absurd (List.suffix_nil.1 ht) hne

theorem cutAt_ok (stop : List Char → Bool) (done cs : List Char) :
    ∃ front, (cutAt stop done cs).1 = done.reverse ++ front
      ∧ front ++ (cutAt stop done cs).2 = cs ∧ IsCutBy stop front (cutAt stop done cs).2 := by
  fun_induction cutAt stop done cs with
  | case1 done => exact ⟨[], by simp, rfl, isCutBy_nil stop _⟩
  | case2 done c cs _ => exact ⟨[], by simp, rfl, isCutBy_nil stop _⟩
  | case3 done c cs hgoes ih =>
    obtain ⟨front, hfront, hcs, hcut⟩ := ih
    refine ⟨c :: front, by simpa using hfront, by rw [List.cons_append, hcs], fun t ht hne => ?_⟩
    rcases List.suffix_cons_iff.1 ht with rfl | ht
    · rw [List.cons_append, hcs]
      have hboth : stop (c :: cs) = false ∧ isChar c.toNat = true := by simpa using hgoes
      exact hboth.1
    · exact hcut t ht hne

theorem yields_takeTo (stop : List Char → Bool) :
    (takeTo stop).Yields fun front => ∃ after, IsCutBy stop front after := by
  have hcut : ∀ cs, ∃ after, IsCutBy stop (cutAt stop [] cs).1 after := fun cs => by
    obtain ⟨front, hfront, -, hcut⟩ := cutAt_ok stop [] cs
    rw [List.reverse_nil, List.nil_append] at hfront
    exact ⟨_, hfront ▸ hcut⟩
  mvcgen [takeTo, -keeps_takeTo] with grind

theorem yields_takeUntil (mark : String) : (takeUntil mark).Yields fun s =>
    ∃ front after, s = String.ofList (plainBreaks front)
      ∧ IsCutBy (fun cs => mark.toList.isPrefixOf cs) front after := by
  mvcgen [takeUntil, yields_takeTo, -keeps_takeUntil, -keeps_takeTo] with grind

theorem yields_section :
    (takeUntil "]]>").Yields fun s => Content.sectionEnd? s.toList = none := by
  refine (yields_takeUntil "]]>").imp fun s => ?_
  rintro ⟨front, after, rfl, hcut⟩
  rw [String.toList_ofList]
  refine sectionEnd?_eq_none_of_forall fun t ht hstop => ?_
  obtain ⟨u, hu, rfl⟩ := exists_suffix_of_plainBreaks ht
  have hmark := sectionStop_prefix_of_plainBreaks hstop
  have hne : u ≠ [] := by
    rintro rfl
    rw [Content.sectionStop_eq] at hmark
    exact absurd (List.prefix_nil.1 hmark) (by simp)
  have hstays := hcut u hu hne
  rw [Bool.eq_false_iff, ne_eq, List.isPrefixOf_iff_prefix] at hstays
  exact hstays (hmark.trans (List.prefix_append u after))

end Sections

section Tags

/-- A name in a tag with parts of characters that names have. -/
def TagName.IsPlain (n : TagName) : Prop :=
  (∀ q ∈ n.qualifier, IsPlainName q) ∧ IsPlainName n.base

def TagParts.ArePlain (parts : TagParts) : Prop := ∀ d ∈ parts.declarations, d.IsPlain

theorem isPlain_splitName {n : List Char} (h : n.all inName = true) :
    (splitName n).1.IsPlain := by
  have hfront : ∀ c ∈ n.takeWhile (· != ':'), inName c = true :=
    fun c hc => List.all_eq_true.1 h c (List.takeWhile_subset _ hc)
  have hrest : ∀ c ∈ n.dropWhile (· != ':'), inName c = true :=
    fun c hc => List.all_eq_true.1 h c (List.dropWhile_subset _ hc)
  simp only [splitName]
  split
  · simpa [TagName.IsPlain, IsPlainName] using h
  · rename_i base hsplit
    split
    · simp_all [TagName.IsPlain, IsPlainName]
    · simpa [TagName.IsPlain, IsPlainName] using h

@[spec] theorem yields_tagName : tagName.Yields TagName.IsPlain := by
  mvcgen [tagName, yields_name, -keeps_name] with grind [isPlain_splitName, IsPlainName]

theorem isPlain_of_declares? {n : TagName} {d : Declaration} (h : n.IsPlain)
    (hd : declares? n = some d.qualifier) : d.IsPlain := by
  intro q hq
  rw [declares?] at hd
  split at hd
  · rw [← Option.some.inj hd] at hq
    cases hq
    exact h.2
  · split at hd
    · rw [← Option.some.inj hd] at hq
      cases hq
    · cases hd

@[spec] theorem yields_writtenAttribute (elementName : String) :
    (writtenAttribute elementName).Yields fun a => a.name.IsPlain := by
  mvcgen [writtenAttribute] with grind

@[spec] theorem keeps_checkUri (qualifier : Option String) (uri : String) :
    (checkUri qualifier uri).Keeps := by
  mvcgen [checkUri]

@[spec] theorem yields_declaration (qualifier : Option String) (uri : String) :
    (declaration qualifier uri).Yields fun d? => ∀ d ∈ d?, d.qualifier = qualifier := by
  mvcgen [declaration] with grind

@[spec] theorem yields_sortAttribute {parts : TagParts} {a : WrittenAttribute}
    (hparts : parts.ArePlain) (ha : a.name.IsPlain) :
    (sortAttribute parts a).Yields TagParts.ArePlain := by
  mvcgen [sortAttribute] with
    grind [isPlain_of_declares?, TagParts.ArePlain]

@[spec] theorem yields_tagParts (elementName : String) (fuel : Nat) {parts : TagParts}
    (hparts : parts.ArePlain) : (tagParts elementName fuel parts).Yields TagParts.ArePlain := by
  induction fuel generalizing parts with
  | zero => mvcgen [tagParts]
  | succ fuel ih => mvcgen [tagParts, ih] with grind

theorem isPlainName_of_mem_rulesIn {s : Input} {elementName : String} {r : AttributeRule}
    (hs : s.HasPlainRules) (h : r ∈ rulesIn s.items elementName) : IsPlainName r.name := by
  obtain ⟨item, hitem, hr⟩ := List.mem_filterMap.1 h
  have hplain := hs item hitem
  cases item with
  | rule r' =>
    simp only at hr
    split at hr
    · cases hr
      exact hplain
    · cases hr
  | entity _ | element _ _ | format _ | comment _ | instruction _ _ => cases hr

@[spec] theorem yields_givenAttributes (elementName : String) :
    (givenAttributes elementName).Yields fun given => ∀ g ∈ given, g.1.IsPlain := by
  mvcgen [givenAttributes]
  rename_i s hs
  refine ⟨hs, fun g hg => ?_⟩
  obtain ⟨r, hr, hdefault⟩ := List.mem_filterMap.1 hg
  have hname := isPlainName_of_mem_rulesIn hs (List.mem_reverse.1 hr)
  split at hdefault
  · cases hdefault
    exact isPlain_splitName hname
  · cases hdefault

theorem isPlain_of_mem_withGiven {given : List (TagName × String)} {own : List Declaration}
    (hgiven : ∀ g ∈ given, g.1.IsPlain) (hown : ∀ d ∈ own, d.IsPlain) :
    ∀ d ∈ withGiven given own, d.IsPlain := by
  rw [withGiven]
  induction given generalizing own with
  | nil => exact hown
  | cons g given ih =>
    obtain ⟨n, uri⟩ := g
    obtain ⟨hn, hrest⟩ := List.forall_mem_cons.1 hgiven
    refine ih hrest ?_
    simp only
    split
    · rename_i q hq
      split
      · exact hown
      · intro d hd
        rcases List.mem_append.1 hd with hd | hd
        · exact hown d hd
        · cases List.mem_singleton.1 hd
          exact isPlain_of_declares? hn hq
    · exact hown

@[spec] theorem keeps_resolve (tags : List Tag) (forElement : Bool) (n : TagName) :
    (resolve tags forElement n).Keeps := by
  mvcgen [resolve]

@[spec] theorem keeps_checkDistinct (named : List (WrittenAttribute × Name)) :
    (checkDistinct named).Keeps := by
  induction named with
  | nil => mvcgen [checkDistinct]
  | cons a rest ih => mvcgen [checkDistinct, ih]

@[spec] theorem keeps_checkGiven (tags : List Tag) (given : List (TagName × String)) :
    (checkGiven tags given).Keeps := by
  refine keeps_forM (fun g => ?_) given
  mvcgen

@[spec] theorem keeps_checkIds (elementName : String)
    (attributes : List (WrittenAttribute × Name)) : (checkIds elementName attributes).Keeps := by
  mvcgen [checkIds, keeps_forIn, -Spec.forIn_list]

@[spec] theorem yields_openingTag (above : List Tag) :
    (openingTag above).Yields fun t => ∀ d ∈ t.2.declarations, d.IsPlain := by
  mvcgen [openingTag, keeps_mapM] with
    grind [isPlain_of_mem_withGiven, TagParts.ArePlain]

@[spec] theorem keeps_closingTag (opened : TagName) : (closingTag opened).Keeps := by
  mvcgen [closingTag] with grind

end Tags

section Content

variable {n : Node} {nodes : List Node}

theorem areAllPlain_reverse (h : AreAllPlain nodes) : AreAllPlain nodes.reverse :=
  areAllPlain_iff.2 fun n hn => areAllPlain_iff.1 h n (List.mem_reverse.1 hn)

theorem areAllPlain_addCharacters (h : AreAllPlain nodes) (s : String) :
    AreAllPlain (addCharacters s nodes) := by
  rw [addCharacters.eq_def]
  split
  · exact ⟨trivial, h.2⟩
  · split
    · exact h
    · exact ⟨trivial, h⟩

theorem yields_remarkNode? : remarkNode?.Yields fun n? => ∀ n ∈ n?, n.IsAllPlain := by
  mvcgen [remarkNode?, -keeps_remarkNode?] with grind [Node.IsAllPlain, Node.IsPlain]

@[spec] theorem yields_characters (h : AreAllPlain nodes) :
    (characters nodes).Yields AreAllPlain := by
  mvcgen [characters] with grind [areAllPlain_addCharacters]

@[spec] theorem yields_contentReference {readEntity : Entity → Reading Unit}
    (hread : ∀ e, (readEntity e).Keeps) (h : AreAllPlain nodes) :
    (contentReference readEntity nodes).Yields AreAllPlain := by
  mvcgen [contentReference, hread] with grind [areAllPlain_addCharacters]

theorem yields_content {readEntity : Nat → Entity → Reading Unit}
    (hread : ∀ depth e, (readEntity depth e).Keeps) {whole : Bool} {depth : Nat} (fuel : Nat)
    {opened : List OpenElement}
    (hopened : ∀ o ∈ opened, (∀ d ∈ o.tag.declarations, d.IsPlain) ∧ AreAllPlain o.before)
    (hdone : AreAllPlain nodes) :
    (content readEntity whole depth fuel opened nodes).Yields AreAllPlain := by
  induction fuel generalizing opened nodes with
  | zero => mvcgen [content]
  | succ fuel ih =>
    mvcgen [content, ih, hread, yields_section, yields_remarkNode?, -keeps_takeUntil,
      -keeps_remarkNode?] with
      grind [AreAllPlain, Node.IsAllPlain, Node.IsPlain, areAllPlain_reverse]

@[spec] theorem keeps_readEntity (nesting depth : Nat) (e : Entity) :
    (readEntity nesting depth e).Keeps := by
  induction nesting generalizing depth e with
  | zero => mvcgen [readEntity]
  | succ n ih =>
    have hcontent : ∀ depth fuel, (content (readEntity n) false depth fuel [] []).Keeps :=
      fun depth fuel => (yields_content ih fuel (by simp) areAllPlain_nil).keeps
    mvcgen [readEntity, hcontent]

theorem yields_rootElement : rootElement.Yields fun e => e.node.IsAllPlain := by
  have hcontent : ∀ (fuel : Nat) (o : OpenElement), (∀ d ∈ o.tag.declarations, d.IsPlain) →
      o.before = [] →
      (content (readEntity (nestingLimit + 1)) true 0 fuel [o] []).Yields AreAllPlain := by
    intro fuel o htag hbefore
    refine yields_content (keeps_readEntity _) fuel ?_ areAllPlain_nil
    simpa [hbefore, AreAllPlain] using htag
  mvcgen [rootElement, hcontent] with
    grind [AreAllPlain, Node.IsAllPlain, Element.node]

theorem yields_document (judge : String → Verdict) (encoding : Heading → String) :
    (document judge encoding).Yields fun d => d.root.node.IsAllPlain := by
  mvcgen [document, yields_rootElement] with grind

end Content

end Reading

end Markup

namespace Source

variable {source : Source} {file : Option String} {d : Document}

/-- A document that was loaded has plain nodes. -/
theorem isAllPlain_of_load (h : source.load file = .ok d) : d.root.node.IsAllPlain := by
  obtain ⟨judge, encoding, cs, s, hdocument⟩ := exists_document_of_load h
  have hstart : (Input.start cs).HasPlainRules := fun _ hitem => nomatch hitem
  exact (Reading.yields_document judge encoding).of_ok hstart hdocument

theorem holdsPlain_of_load (h : source.load file = .ok d) : d.root.HoldsPlain :=
  Element.holdsPlain_of_isAllPlain (isAllPlain_of_load h)

end Source

end TemplateLexer
