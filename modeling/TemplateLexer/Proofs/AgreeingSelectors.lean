import TemplateLexer.Content.Strip
import TemplateLexer.Lexing.Helpers
import TemplateLexer.Proofs.Blocks
import TemplateLexer.Proofs.Namespaced

set_option autoImplicit false

namespace TemplateLexer

open Markup

namespace Markup

/-- A declaration that a tag makes: the first one of its qualifier. -/
def Tag.Binds (t : Tag) (d : Declaration) : Prop :=
  t.declarations.find? (·.qualifier == d.qualifier) = some d

theorem Tag.MayFill.binds {t t' : Tag} {d : Declaration} (h : t.MayFill t') (hd : t'.Binds d) :
    t.Binds d := by
  rcases h with rfl | rfl
  · exact hd
  · exact hd

/-- Whether the names in a tag have only some namespaces; names in none count as in the empty
one. -/
structure Tag.NamesWithin (K : String → Prop) (t : Tag) : Prop where
  name : K (t.name.uri.getD "")
  attributes : ∀ a ∈ t.attributes, K (a.name.uri.getD "")

section Declarations

variable {bound new : List Declaration} {d : Declaration} {t : Tag} {tags above : List Tag}

theorem mem_extend_iff : d ∈ extend bound new ↔ d ∈ bound
    ∨ (∀ b ∈ bound, b.qualifier ≠ d.qualifier)
      ∧ new.find? (·.qualifier == d.qualifier) = some d := by
  induction new generalizing bound with
  | nil => simp [extend]
  | cons b rest ih =>
    rw [extend]
    cases hany : bound.any (·.qualifier == b.qualifier) with
    | true =>
      obtain ⟨c, hc, hcb⟩ := List.any_eq_true.1 hany
      rw [if_pos rfl, ih]
      refine or_congr_right (and_congr_right fun hfree => ?_)
      have hne : (b.qualifier == d.qualifier) = false :=
        beq_eq_false_iff_ne.2 fun he => hfree c hc ((eq_of_beq hcb).trans he)
      rw [List.find?_cons_of_neg (by simp [hne])]
    | false =>
      have hfree : ∀ c ∈ bound, c.qualifier ≠ b.qualifier := by simpa using hany
      rw [if_neg Bool.false_ne_true, ih, List.mem_append, List.mem_singleton, or_assoc]
      refine or_congr_right ?_
      by_cases hb : b.qualifier = d.qualifier
      · rw [List.find?_cons_of_pos (by simp [hb]), Option.some_inj]
        constructor
        · rintro (rfl | ⟨hother, -⟩)
          · exact ⟨hfree, rfl⟩
          · exact absurd hb (hother b (by simp))
        · rintro ⟨-, rfl⟩
          exact .inl rfl
      · rw [List.find?_cons_of_neg (by simp [hb])]
        constructor
        · rintro (rfl | ⟨hother, hfind⟩)
          · exact absurd rfl hb
          · exact ⟨fun c hc => hother c (List.mem_append_left _ hc), hfind⟩
        · rintro ⟨hother, hfind⟩
          refine .inr ⟨List.forall_mem_append.2 ⟨hother, List.forall_mem_singleton.2 hb⟩, hfind⟩

theorem mem_bindings_iff_find? : d ∈ bindings tags
    ↔ (tags.flatMap (·.declarations)).find? (·.qualifier == d.qualifier) = some d := by
  rw [bindings_eq_extend, mem_extend_iff]
  simp

theorem exists_binds_of_mem_bindings (h : d ∈ bindings tags) : ∃ t ∈ tags, t.Binds d := by
  rw [mem_bindings_iff_find?, List.find?_flatMap] at h
  exact List.exists_of_findSome?_eq_some h

theorem mem_bindings_of_binds (h : t.Binds d) (above : List Tag) : d ∈ bindings (t :: above) := by
  rw [mem_bindings_iff_find?, List.flatMap_cons, List.find?_append, h, Option.some_or]

theorem binds_extend {decls : List Declaration} (ht : t.declarations = extend decls new)
    (h : t.Binds d) : decls.find? (·.qualifier == d.qualifier) = some d ∨ d ∈ new := by
  rw [Tag.Binds, ht] at h
  induction new generalizing decls t with
  | nil => exact .inl h
  | cons b rest ih =>
    rw [extend] at h
    split at h
    · rcases ih (t := { t with declarations := extend decls rest }) rfl h with h | h
      · exact .inl h
      · exact .inr (List.mem_cons_of_mem _ h)
    · rcases ih (t := { t with declarations := extend (decls ++ [b]) rest }) rfl h with h | h
      · rw [List.find?_append, Option.or_eq_some_iff] at h
        rcases h with h | ⟨-, h⟩
        · exact .inl h
        · exact .inr (List.mem_singleton.1 (List.mem_of_find?_eq_some h) ▸ List.mem_cons_self ..)
      · exact .inr (List.mem_cons_of_mem _ h)

end Declarations

end Markup

/-- Selectors that hold the same of some namespaces. -/
structure Selector.Agrees (K : String → Prop) (s s' : Selector) : Prop where
  policy : s.policy = s'.policy
  expand : s.expand = s'.expand
  uris : ∀ u, K u → s.uris.contains u = s'.uris.contains u

namespace Selector.Agrees

variable {K : String → Prop} {s s' : Selector} {t : Tag} {q : Place}

section Names

variable {n : Name}

theorem isIn_eq (h : s.Agrees K s') (hn : K (n.uri.getD "")) :
    n.isIn s.uris = n.isIn s'.uris := by
  rw [Name.isIn, Name.isIn]
  cases hu : n.uri with
  | none => rfl
  | some u =>
    rw [hu] at hn
    exact h.uris u hn

theorem isInOrEmpty_eq (h : s.Agrees K s') (hn : K (n.uri.getD "")) :
    n.isInOrEmpty s.uris = n.isInOrEmpty s'.uris :=
  h.uris _ hn

end Names

theorem helperAttributes_eq (h : s.Agrees K s') (ht : t.NamesWithin K) :
    s.helperAttributes t = s'.helperAttributes t :=
  List.filter_congr fun a ha => h.isInOrEmpty_eq (ht.attributes a ha)

theorem plainTag_eq (h : s.Agrees K s') (ht : t.NamesWithin K) : s.plainTag t = s'.plainTag t := by
  rw [plainTag, plainTag]
  congr 1
  refine List.filter_congr fun a ha => ?_
  rw [h.isInOrEmpty_eq (ht.attributes a ha)]

theorem namesWithin_plainTag (ht : t.NamesWithin K) : (s.plainTag t).NamesWithin K :=
  ⟨ht.name, fun a ha => ht.attributes a (List.mem_filter.1 ha).1⟩

theorem holdsDelimiter_eq (h : s.Agrees K s') (a : Attribute) :
    s.holdsDelimiter a = s'.holdsDelimiter a := by
  rw [holdsDelimiter, holdsDelimiter, h.expand]

theorem elementHelperExpressions_eq (h : s.Agrees K s') (ht : t.NamesWithin K) :
    s.elementHelperExpressions t = s'.elementHelperExpressions t := by
  refine List.filter_congr fun a ha => ?_
  rw [h.isInOrEmpty_eq (ht.attributes a ha), h.holdsDelimiter_eq]

theorem plainAttributes_eq (h : s.Agrees K s') (ht : t.NamesWithin K) (tags : List Tag) :
    Working.plainAttributes s.uris tags t = Working.plainAttributes s'.uris tags t := by
  have hfilter : (t.attributes.filter fun a => !a.name.isIn s.uris)
      = t.attributes.filter fun a => !a.name.isIn s'.uris := by
    refine List.filter_congr fun a ha => ?_
    rw [h.isIn_eq (ht.attributes a ha)]
  rw [Working.plainAttributes, Working.plainAttributes, hfilter]

theorem exposed_eq (h : s.Agrees K s') (above : List Tag) : s.exposed above = s'.exposed above := by
  rw [exposed, exposed, h.policy]

theorem isMarked_eq (h : s.Agrees K s') (ht : q.tag.NamesWithin K) :
    s.isMarked q = s'.isMarked q := by
  have hattributes : (q.tag.attributes.any fun a => a.name.isInOrEmpty s.uris)
      = q.tag.attributes.any fun a => a.name.isInOrEmpty s'.uris := by
    rw [Bool.eq_iff_iff, List.any_eq_true, List.any_eq_true]
    refine exists_congr fun a => and_congr_right fun ha => ?_
    rw [h.isInOrEmpty_eq (ht.attributes a ha)]
  rw [isMarked, isMarked, h.exposed_eq, h.isInOrEmpty_eq ht.name, hattributes]

theorem sitesAt_eq (h : s.Agrees K s') (withAttributes : Bool) (q : Place) :
    s.sitesAt withAttributes q = s'.sitesAt withAttributes q := by
  rw [sitesAt, sitesAt, h.exposed_eq, funext h.holdsDelimiter_eq]

theorem nodeExpressions_eq (h : s.Agrees K s') (ht : q.tag.NamesWithin K) :
    s.nodeExpressions q = s'.nodeExpressions q := by
  rw [nodeExpressions, nodeExpressions, h.isInOrEmpty_eq ht.name, h.sitesAt_eq,
    funext (h.sitesAt_eq true)]

theorem written_eq (h : s.Agrees K s') (ht : q.tag.NamesWithin K) :
    s.written q = s'.written q := by
  have hwritten : s.writtenFor = s'.writtenFor := by
    funext site
    cases site with
    | attributeOf _ _ => rfl
    | contentOf owner => rw [writtenFor, writtenFor, h.policy]
  rw [written, written, h.nodeExpressions_eq ht, hwritten]

section Markup

open Content

theorem stripped_eq (h : s.Agrees K s') {e : Element}
    (he : ∀ t ∈ e.node.tags, ∀ d, t.Binds d → K d.uri) :
    stripped s.uris [] e = stripped s'.uris [] e := by
  have hkept : keptQualifiers s.uris [] e = keptQualifiers s'.uris [] e := by
    refine List.flatMap_congr fun r hr => List.filterMap_congr fun d hd => ?_
    obtain ⟨t, ht, hbinds⟩ := exists_binds_of_mem_bindings hd
    obtain ⟨x, hx, rfl⟩ : ∃ x ∈ e.places, x.tag = t := exists_place_of_mem_tags hr ht
    rw [h.uris d.uri (he x.tag ?_ d hbinds)]
    rw [← map_tag_placesOf [] []]
    exact List.mem_map_of_mem hx
  rw [stripped, stripped, hkept]

/-- The tags in a copy of an element bind what those in the element do, and what is in force
around it. -/
theorem binds_detached {e : Element} {above : List Tag} {d : Declaration} (ht : t ∈
    (e.detached above).node.tags) (h : t.Binds d) :
    (∃ t ∈ e.node.tags, t.Binds d) ∨ d ∈ bindings above := by
  have htags : (e.detached above).node.tags
      = (e.detached above).tag :: tagsIn e.children := rfl
  rw [htags, List.mem_cons] at ht
  rcases ht with rfl | ht
  · rcases binds_extend rfl h with hown | hused
    · exact .inl ⟨e.tag, List.mem_cons_self .., hown⟩
    · obtain ⟨u, -, hu⟩ := List.mem_filterMap.1 hused
      exact .inr (List.mem_of_find?_eq_some hu)
  · exact .inl ⟨t, List.mem_cons_of_mem _ ht, h⟩

theorem nodeMarkup_eq (h : s.Agrees K s') (m : Matcher) (hname : K (q.tag.name.uri.getD ""))
    (htags : ∀ t ∈ q.element.node.tags, ∀ d, t.Binds d → K d.uri)
    (habove : ∀ d ∈ bindings q.above, K d.uri) :
    nodeMarkup s m q = nodeMarkup s' m q := by
  have hcopy : ((q.element.detached q.above).withoutDirectives m).node.tags
      = (q.element.detached q.above).node.tags := by
    rw [Element.withoutDirectives, Element.node, Element.node, Node.tags, Node.tags,
      tagsIn_dropDirectives]
    rfl
  have hstripped : stripped s.uris [] ((q.element.detached q.above).withoutDirectives m)
      = stripped s'.uris [] ((q.element.detached q.above).withoutDirectives m) := by
    refine h.stripped_eq fun t ht d hd => ?_
    rw [hcopy] at ht
    rcases binds_detached ht hd with ⟨t', ht', hd'⟩ | hd'
    · exact htags t' ht' d hd'
    · exact habove d hd'
  rw [nodeMarkup, nodeMarkup, h.policy, hstripped, h.isIn_eq hname]

end Markup

end Selector.Agrees

end TemplateLexer
