import TemplateLexer.Proofs.Hierarchy
import TemplateLexer.Proofs.Loci
import TemplateLexer.Proofs.Namespaced
import TemplateLexer.Proofs.PathBytes
/-!
Paths tell elements and attributes apart, and tokens have the paths of the document as it was
loaded. A path shows an attribute by the first qualifier in force for its namespace; attributes of
an element are shown by different names if they have different ones.
-/

set_option autoImplicit false

namespace TemplateLexer

open Markup

namespace Markup

/-- A document that uses names as namespaces ask for: a colon only joins a bound qualifier and a
base, attributes of an element have different names whatever their qualifiers are, and no brace
closes in the namespace of one. -/
structure Element.IsWellNamed (root : Element) : Prop where
  elements : ∀ q ∈ root.places, ':' ∉ q.tag.name.base.toList
  attributes : ∀ q ∈ root.places, ∀ a ∈ q.tag.attributes, ':' ∉ a.name.base.toList
  namespaces : ∀ q ∈ root.places, ∀ a ∈ q.tag.attributes, ∀ u ∈ a.name.uri, '\x7d' ∉ u.toList
  distinct : ∀ q ∈ root.places,
    q.tag.attributes.Pairwise fun a b => a.name.isSame b.name = false

instance : DecidablePred Element.IsWellNamed := fun root =>
  decidable_of_iff
    ((∀ q ∈ root.places, ':' ∉ q.tag.name.base.toList)
      ∧ (∀ q ∈ root.places, ∀ a ∈ q.tag.attributes, ':' ∉ a.name.base.toList)
      ∧ (∀ q ∈ root.places, ∀ a ∈ q.tag.attributes, ∀ u ∈ a.name.uri, '\x7d' ∉ u.toList)
      ∧ ∀ q ∈ root.places, q.tag.attributes.Pairwise fun a b => a.name.isSame b.name = false)
    ⟨fun h => ⟨h.1, h.2.1, h.2.2.1, h.2.2.2⟩,
      fun h => ⟨h.elements, h.attributes, h.namespaces, h.distinct⟩⟩

section Qualifiers

variable {root : Element} {q : Place} {a b : Attribute} {bound : List Declaration}
  {tags : List Tag} {u f : String}

theorem nodup_extend (h : (bound.map (·.qualifier)).Nodup) (new : List Declaration) :
    ((extend bound new).map (·.qualifier)).Nodup := by
  induction new generalizing bound with
  | nil => exact h
  | cons d rest ih =>
    rw [extend]
    split
    · exact ih h
    · rename_i hnew
      have hfresh : d.qualifier ∉ bound.map (·.qualifier) := by simpa using hnew
      refine ih ?_
      rw [List.map_append, List.map_singleton, ← List.concat_eq_append]
      exact h.concat hfresh

theorem nodup_bindings (tags : List Tag) : ((bindings tags).map (·.qualifier)).Nodup := by
  have hnone : (([] : List Declaration).map (·.qualifier)).Nodup := List.nodup_nil
  rw [bindings_eq_extend]
  exact nodup_extend hnone _

/-- What qualifiers of attributes stand for: the one of the markup language itself is not bound by
tags. -/
def inForce (tags : List Tag) : List Declaration := ⟨some "xml", xmlUri⟩ :: bindings tags

theorem nodup_inForce (hread : ∀ q ∈ root.places, q.tag.IsRead q.above) (hq : q ∈ root.places) :
    ((inForce q.tags).map (·.qualifier)).Nodup := by
  refine List.nodup_cons.2 ⟨fun hmem => ?_, nodup_bindings q.tags⟩
  obtain ⟨d, hd, hxml⟩ := List.mem_map.1 hmem
  obtain ⟨t, ht, hd⟩ := exists_mem_of_mem_bindings hd
  obtain ⟨r, hr, rfl⟩ := exists_place_of_mem_tags hq ht
  exact (hread r hr).declared d hd hxml

theorem cutAtBrace_of_notMem (h : '\x7d' ∉ u.toList) (base : String) :
    cutAtBrace u base = (u, base) := by
  have hnone : u.toList.dropWhile (· != '\x7d') = [] := by
    refine List.dropWhile_eq_nil_iff.2 fun c hc => ?_
    rw [bne_iff_ne]
    rintro rfl
    exact h hc
  rw [cutAtBrace, hnone]

theorem exists_qualifiedName (hread : q.tag.IsRead q.above) (ha : a ∈ q.tag.attributes)
    (hu : a.name.uri = some u) (hbrace : '\x7d' ∉ u.toList) :
    ∃ f, qualifiedName q.tags a.name.uri a.name.base = f ++ ":" ++ a.name.base
      ∧ ⟨some f, u⟩ ∈ inForce q.tags := by
  rw [hu, qualifiedName, cutAtBrace_of_notMem hbrace]
  by_cases hxml : u = xmlUri
  · exact ⟨"xml", by simp [hxml], by simp [inForce, hxml]⟩
  · obtain ⟨f, hf, hmem⟩ := (hread.bound a ha u hu).resolve_left hxml
    simp only [beq_iff_eq, hxml, if_false]
    cases hfind : (bindings q.tags).find? fun d => d.uri == u && (d.qualifier.getD "") != "" with
    | none =>
      rw [List.find?_eq_none] at hfind
      exact absurd (show _ = true by simpa using hf) (hfind _ hmem)
    | some d =>
      obtain ⟨g, v⟩ := d
      have hsome := List.find?_some hfind
      rw [Bool.and_eq_true, beq_iff_eq] at hsome
      obtain ⟨rfl, hg⟩ := hsome
      cases g with
      | none => cases hg
      | some g => exact ⟨g, rfl, List.mem_cons_of_mem _ (List.mem_of_find?_eq_some hfind)⟩

theorem isSame_of_qualifiedName_eq (hread : ∀ q ∈ root.places, q.tag.IsRead q.above)
    (hnames : root.IsWellNamed) (hq : q ∈ root.places) (ha : a ∈ q.tag.attributes)
    (hb : b ∈ q.tag.attributes)
    (h : qualifiedName q.tags a.name.uri a.name.base
      = qualifiedName q.tags b.name.uri b.name.base) : a.name.isSame b.name = true := by
  have hbase := hnames.attributes q hq a ha
  have hbase' := hnames.attributes q hq b hb
  have hbrace := hnames.namespaces q hq
  suffices hsame : a.name.uri = b.name.uri ∧ a.name.base = b.name.base by
    simp [Name.isSame, hsame]
  cases hu : a.name.uri with
  | none =>
    cases hv : b.name.uri with
    | none => exact ⟨rfl, by simpa [hu, hv, qualifiedName] using h⟩
    | some v =>
      obtain ⟨f, hf, -⟩ := exists_qualifiedName (hread q hq) hb hv (hbrace b hb v hv)
      rw [hf, hu] at h
      exact absurd h.symm (qualified_ne hbase)
  | some u =>
    obtain ⟨f, hf, hmem⟩ := exists_qualifiedName (hread q hq) ha hu (hbrace a ha u hu)
    cases hv : b.name.uri with
    | none =>
      rw [hf, hv] at h
      exact absurd h (qualified_ne hbase')
    | some v =>
      obtain ⟨g, hg, hmem'⟩ := exists_qualifiedName (hread q hq) hb hv (hbrace b hb v hv)
      rw [hf, hg] at h
      obtain ⟨rfl, hbases⟩ := qualified_inj hbase hbase' h
      have hdeclaration := List.inj_on_of_nodup_map (nodup_inForce hread hq) hmem hmem' rfl
      exact ⟨congrArg (fun d : Declaration => some d.uri) hdeclaration, hbases⟩

theorem nodup_qualifiedNames (hread : ∀ q ∈ root.places, q.tag.IsRead q.above)
    (hnames : root.IsWellNamed) (hq : q ∈ root.places) :
    (q.tag.attributes.map fun a => qualifiedName q.tags a.name.uri a.name.base).Nodup := by
  refine List.pairwise_map.2 ((hnames.distinct q hq).imp_of_mem fun {a b} ha hb hdistinct h => ?_)
  rw [isSame_of_qualifiedName_eq hread hnames hq ha hb h] at hdistinct
  cases hdistinct

end Qualifiers

end Markup

namespace Outline

variable {o : Outline} {root : Element} {q r : Place} {a b : Attribute} {k l : Locus}

theorem exists_pathAt (hroot : o.root = root)
    (hnames : ∀ q ∈ root.places, q.tag.name.IsShowable) (hwhole : root.KeepsPaths)
    (hq : q ∈ root.places) :
    root.wholePath? q.address = some (o.pathAt q.address) ∧ '@' ∉ (o.pathAt q.address).toList := by
  obtain ⟨steps, -, hall, hpath⟩ := exists_wholePath? hnames hq
  rw [pathAt, hroot, hwhole q hq, hpath]
  refine ⟨rfl, ?_⟩
  rw [Option.getD_some, String.toList_join, List.mem_flatMap]
  rintro ⟨s, hs, hat⟩
  exact (hall s hs).not_mem hat

theorem pathAt_ne_attributePath (h : '@' ∉ (o.pathAt q.address).toList) :
    o.pathAt q.address ≠ o.attributePath r a := by
  intro heq
  rw [heq, attributePath] at h
  simp at h

theorem attributePath_inj (hq : '@' ∉ (o.pathAt q.address).toList)
    (hr : '@' ∉ (o.pathAt r.address).toList) (h : o.attributePath q a = o.attributePath r b) :
    o.pathAt q.address = o.pathAt r.address ∧ qualifiedName q.tags a.name.uri a.name.base
      = qualifiedName r.tags b.name.uri b.name.base := by
  have hsplit : ∀ (path name : String), (path ++ "/@" ++ name).toList
      = (path.toList ++ ['/']) ++ '@' :: name.toList := by simp
  have hchars := congrArg String.toList h
  rw [attributePath, attributePath, hsplit, hsplit] at hchars
  have hfront : ∀ {path : String}, '@' ∉ path.toList → '@' ∉ path.toList ++ ['/'] := by simp
  obtain ⟨hpath, hname⟩ := append_inj_at (hfront hq) (hfront hr) (by simp) (by simp) hchars
  exact ⟨String.toList_inj.1 (List.append_cancel_right hpath),
    String.toList_inj.1 (List.cons.inj hname).2⟩

/-- Paths tell the elements and attributes of a document apart, all taken together. -/
theorem pathTo_inj (hroot : o.root = root) (hread : ∀ q ∈ root.places, q.tag.IsRead q.above)
    (hnames : root.IsWellNamed) (hwhole : root.KeepsPaths) (hk : k ∈ root.loci)
    (hl : l ∈ root.loci) (h : o.pathTo k = o.pathTo l) : k = l := by
  have hshow : ∀ q ∈ root.places, q.tag.name.IsShowable := fun q hq =>
    ⟨(hread q hq).name, (hread q hq).unqualified, hnames.elements q hq⟩
  have hpath : ∀ q ∈ root.places, root.wholePath? q.address = some (o.pathAt q.address)
      ∧ '@' ∉ (o.pathAt q.address).toList := fun q hq => exists_pathAt hroot hshow hwhole hq
  have heq : ∀ q ∈ root.places, ∀ r ∈ root.places,
      o.pathAt q.address = o.pathAt r.address → q = r := fun q hq r hr hqr =>
    eq_of_wholePath? hshow hq hr ((hpath q hq).1.trans (hqr ▸ (hpath r hr).1.symm))
  cases k with
  | elementAt q =>
    have hq := mem_loci_elementAt.1 hk
    cases l with
    | elementAt r => rw [heq q hq r (mem_loci_elementAt.1 hl) h]
    | attributeAt r b => exact absurd h (pathAt_ne_attributePath (hpath q hq).2)
  | attributeAt q a =>
    obtain ⟨hq, ha⟩ := mem_loci_attributeAt.1 hk
    cases l with
    | elementAt r =>
      exact absurd h.symm (pathAt_ne_attributePath (hpath r (mem_loci_elementAt.1 hl)).2)
    | attributeAt r b =>
      obtain ⟨hr, hb⟩ := mem_loci_attributeAt.1 hl
      obtain ⟨hpaths, hname⟩ := attributePath_inj (hpath q hq).2 (hpath r hr).2 h
      obtain rfl := heq q hq r hr hpaths
      rw [List.inj_on_of_nodup_map (nodup_qualifiedNames hread hnames hq) ha hb hname]

/-- The attributes of an element that are no helpers, with their names as an author writes them and
their texts. -/
def otherEntries (o : Outline) (q : Place) : List (String × String) :=
  (q.tag.attributes.filter fun a => !a.name.isInOrEmpty o.selector.uris).map fun a =>
    (qualifiedName q.tags a.name.uri a.name.base, a.plainValue)

/-- How the token of an element that is a helper lists the other attributes: each of them once. -/
structure Lists (o : Outline) (q : Place) (t : Token) : Prop where
  points : o.Points (.elementAt q) t
  entries : ∃ f, t.body = .helper f ∧ f.attributes = o.otherEntries q
  distinct : ((o.otherEntries q).map (·.1)).Nodup

end Outline

namespace Pass

variable {p : Pass} {policy : Policy} {root : Element} {q : Place} {t : Token}

theorem plainAttributes_view (nodes : List Place) (q : Place) :
    Working.plainAttributes p.selector.uris (p.view nodes q).tags (p.view nodes q).tag
      = entriesOf ((p.outline root).otherEntries q) := by
  have htags : (p.view nodes q).tags.map Tag.frame = q.tags.map Tag.frame := rfl
  have hattributes : ((p.view nodes q).tag.attributes.filter fun a =>
        !a.name.isIn p.selector.uris)
      = q.tag.attributes.filter fun a => !a.name.isInOrEmpty p.selector.uris := by
    refine (List.filter_filter ..).trans (List.filter_congr fun a _ => ?_)
    rw [Name.isIn, Name.isInOrEmpty]
    cases a.name.uri <;> simp
  rw [Working.plainAttributes, hattributes, entriesOf, Outline.otherEntries, List.foldl_map]
  simp only [qualifiedName_congr htags]
  rfl

theorem lists_elementHelper (hp : Starts policy root p)
    (hread : ∀ q ∈ root.places, q.tag.IsRead q.above) (hnames : root.IsWellNamed)
    (nodes : List Place) (hq : q ∈ root.places) :
    (p.outline root).Lists q (p.elementHelperToken (p.view nodes q)) := by
  have hdistinct : (((p.outline root).otherEntries q).map (·.1)).Nodup := by
    rw [Outline.otherEntries, List.map_map]
    exact (List.filter_sublist.map _).nodup (nodup_qualifiedNames hread hnames hq)
  refine ⟨points_elementHelper hp nodes hq, ⟨_, rfl, ?_⟩, hdistinct⟩
  exact (plainAttributes_view nodes q).trans (entriesOf_of_nodup hdistinct)

/-- The tokens of elements that are helpers come from nodes. -/
theorem Tells.exists_lists (hp : Starts policy root p)
    (hread : ∀ q ∈ root.places, q.tag.IsRead q.above) (hnames : root.IsWellNamed)
    (h : p.Tells root t) (hkind : t.kind = .elementHelper) :
    ∃ q ∈ root.places, (p.outline root).Lists q t := by
  obtain ⟨q, hq, rfl⟩ := h.exists_of_elementHelper hkind
  exact ⟨q, hq, lists_elementHelper hp hread hnames _ hq⟩

end Pass

namespace Document

/-- What paths and ids tell in a document that was loaded. Its elements and attributes have
different paths, if names are used as namespaces ask for and no path is cut. Whatever a pass does,
tokens have the paths and ids that belong to the document, and helpers list all other attributes. -/
theorem lex_paths {source : Source} {file : Option String} {d : Markup.Document}
    (hload : source.load file = .ok d) :
    (d.root.IsWellNamed → d.root.KeepsPaths → ∀ o : Outline, o.root = d.root →
        ∀ k ∈ d.root.loci, ∀ l ∈ d.root.loci, o.pathTo k = o.pathTo l → k = l)
      ∧ ∀ (policy : Policy) (file : Option String) (stream : LexedStream),
        (lex policy d file).run.1 = .ok stream → ∃ o : Outline, o.IsOf policy d.root
          ∧ (∀ t ∈ stream.toList, t.path?.isSome = true → ∃ l ∈ d.root.loci, o.Points l t)
          ∧ (d.root.IsWellNamed → ∀ t ∈ stream.toList, t.kind = .elementHelper →
            ∃ q ∈ d.root.places, o.Lists q t) := by
  have hread := Source.isRead_of_load hload
  refine ⟨fun hnames hwhole o hroot k hk l hl h =>
    Outline.pathTo_inj hroot hread hnames hwhole hk hl h, fun policy file stream h => ?_⟩
  obtain ⟨p, hp, htells⟩ := lex_tells h
  refine ⟨p.outline d.root, hp.isOf, fun t ht hpath => ?_, fun hnames t ht hkind => ?_⟩
  · obtain ⟨l, hl, -, hpoints⟩ := exists_points hp (htells t ht) hpath
    exact ⟨l, hl, hpoints⟩
  · rcases htells t ht with rfl | rfl | htell
    · cases hkind
    · cases hkind
    · exact htell.exists_lists hp hread hnames hkind

/-- The source of a document with plain names, names with a qualifier, the qualifier of the markup
language itself, and a namespace for names without one. -/
def sourceOfNames : Source :=
  .text "<r xmlns:x=\"urn:x\"><p/><p/><x:i a=\"1\" xml:id=\"b\"><i xmlns=\"urn:y\"/></x:i></r>"

theorem lex_paths_sample : ∃ d stream, sourceOfNames.load none = .ok d
    ∧ (lex .standard d none).run.1 = .ok stream
    ∧ d.root.IsWellNamed ∧ d.root.Fits
    ∧ ∃ o : Outline, o.IsOf .standard d.root
      ∧ (∀ k ∈ d.root.loci, ∀ l ∈ d.root.loci, o.pathTo k = o.pathTo l → k = l)
      ∧ (∀ t ∈ stream.toList, t.path?.isSome = true → ∃ l ∈ d.root.loci, o.Points l t)
      ∧ ∀ t ∈ stream.toList, t.kind = .elementHelper → ∃ q ∈ d.root.places, o.Lists q t := by
  have hlexes : (match sourceOfNames.load none with
      | .ok d => (lex .standard d none).run.1.isOk && decide d.root.IsWellNamed
        && decide d.root.Fits
      | .error _ => false) = true := by
    decide +kernel
  split at hlexes
  · rename_i d hload
    rw [Bool.and_eq_true, Bool.and_eq_true, decide_eq_true_eq, decide_eq_true_eq] at hlexes
    obtain ⟨⟨hok, hnames⟩, hfits⟩ := hlexes
    obtain ⟨stream, h⟩ := Except.exists_of_isOk hok
    obtain ⟨hinj, htokens⟩ := lex_paths hload
    obtain ⟨o, ho, hpoints, hlists⟩ := htokens .standard none stream h
    exact ⟨d, stream, hload, h, hnames, hfits, o, ho, hinj hnames hfits.keepsPaths o ho.root,
      hpoints, hlists hnames⟩
  · cases hlexes

/-- Whether two elements or attributes of a document have one path. -/
def SharesPath (root : Element) : Prop :=
  ∃ k ∈ root.loci, ∃ l ∈ root.loci, k ≠ l
    ∧ ∀ o : Outline, o.root = root → o.pathTo k = o.pathTo l

theorem sharesPath_of_elements {root : Element} {a b : Address}
    (ha : a ∈ root.places.map (·.address)) (hb : b ∈ root.places.map (·.address)) (hne : a ≠ b)
    (h : root.path? a = root.path? b) : SharesPath root := by
  obtain ⟨q, hq, rfl⟩ := List.mem_map.1 ha
  obtain ⟨r, hr, rfl⟩ := List.mem_map.1 hb
  refine ⟨.elementAt q, mem_loci_elementAt.2 hq, .elementAt r, mem_loci_elementAt.2 hr, ?_, ?_⟩
  · rintro ⟨⟩
    exact hne rfl
  · rintro o rfl
    exact congrArg (fun path? : Option String => path?.getD "") h

theorem sharesPath_of_attributes {root : Element}
    (h : ∃ q ∈ root.places, ∃ a ∈ q.tag.attributes, ∃ b ∈ q.tag.attributes, a ≠ b
      ∧ qualifiedName q.tags a.name.uri a.name.base
        = qualifiedName q.tags b.name.uri b.name.base) : SharesPath root := by
  obtain ⟨q, hq, a, ha, b, hb, hne, hname⟩ := h
  refine ⟨.attributeAt q a, mem_loci_attributeAt.2 ⟨hq, ha⟩, .attributeAt q b,
    mem_loci_attributeAt.2 ⟨hq, hb⟩, ?_, fun o _ => ?_⟩
  · rintro ⟨⟩
    exact hne rfl
  · rw [Outline.pathTo, Outline.pathTo, Outline.attributePath, Outline.attributePath, hname]

/-- The source of a document in which a qualifier is bound in one place and not in another one. The
fault is passed over as a remark follows it. -/
def sourceOfUnbound : Source :=
  .text "<r><x:a/><x:a xmlns:x=\"urn:x\"/><b xml:space=\"\"/></r>"

/-- The source of a document with an attribute that is given twice, with two qualifiers. -/
def sourceOfDoubled : Source :=
  .text "<r xmlns:x=\"urn:x\" xmlns:y=\"urn:x\"><b x:k=\"1\" y:k=\"2\"/><b xml:space=\"\"/></r>"

/-- The root of a document in which rules bind qualifiers to namespaces that a brace closes in:
`<!DOCTYPE r [<!ATTLIST r xmlns:x CDATA "urn:a}b" xmlns:y CDATA "urn:c}b">]><r x:k="" y:k=""/>` -/
def rootWithBraces : Element :=
  ⟨⟨.bare "r", [⟨some "x", "urn:a\x7db"⟩, ⟨some "y", "urn:c\x7db"⟩],
    [⟨⟨some "x", some "urn:a\x7db", "k"⟩, [.text ""]⟩,
      ⟨⟨some "y", some "urn:c\x7db", "k"⟩, [.text ""]⟩], 1⟩, []⟩

/-- Documents in which paths do not tell elements and attributes apart: where a path is cut, where a
qualifier is not bound, where two attributes of an element have one name, and where namespaces are
cut at a brace. -/
theorem lex_paths_shared :
    (twins.root.IsWellNamed ∧ SharesPath twins.root)
      ∧ (∃ d, sourceOfUnbound.load none = .ok d ∧ d.root.KeepsPaths ∧ SharesPath d.root)
      ∧ (∃ d, sourceOfDoubled.load none = .ok d ∧ d.root.KeepsPaths ∧ SharesPath d.root)
      ∧ rootWithBraces.KeepsPaths ∧ SharesPath rootWithBraces := by
  have hunbound : (match sourceOfUnbound.load none with
      | .ok d => decide (d.root.KeepsPaths ∧ [0] ∈ d.root.places.map (·.address)
          ∧ [1] ∈ d.root.places.map (·.address) ∧ d.root.path? [0] = d.root.path? [1])
      | .error _ => false) = true := by
    decide +kernel
  have hdoubled : (match sourceOfDoubled.load none with
      | .ok d => decide (d.root.KeepsPaths ∧ ∃ q ∈ d.root.places, ∃ a ∈ q.tag.attributes,
          ∃ b ∈ q.tag.attributes, a ≠ b ∧ qualifiedName q.tags a.name.uri a.name.base
            = qualifiedName q.tags b.name.uri b.name.base)
      | .error _ => false) = true := by
    decide +kernel
  refine ⟨?_, ?_, ?_, by decide +kernel, sharesPath_of_attributes (by decide +kernel)⟩
  · have hpath : twins.root.path? [0] = twins.root.path? [1] := by
      have hsteps : twins.root.steps [0] = twins.root.steps [1] := by decide +kernel
      rw [Element.path?, Element.path?, hsteps]
    exact ⟨by decide +kernel, sharesPath_of_elements (by decide +kernel) (by decide +kernel)
      (by decide) hpath⟩
  · split at hunbound
    · rename_i d hload
      obtain ⟨hwhole, ha, hb, hpath⟩ := of_decide_eq_true hunbound
      exact ⟨d, hload, hwhole, sharesPath_of_elements ha hb (by decide) hpath⟩
    · cases hunbound
  · split at hdoubled
    · rename_i d hload
      obtain ⟨hwhole, hnames⟩ := of_decide_eq_true hdoubled
      exact ⟨d, hload, hwhole, sharesPath_of_attributes hnames⟩
    · cases hdoubled

end Document

end TemplateLexer
