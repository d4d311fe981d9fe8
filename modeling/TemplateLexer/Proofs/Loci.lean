import TemplateLexer.Proofs.Origins

set_option autoImplicit false

namespace TemplateLexer

open Markup

/-- What has a path: an element or an attribute. -/
inductive Locus where
  | elementAt (q : Place)
  | attributeAt (q : Place) (a : Attribute)

namespace Locus

def owner : Locus → Place
  | elementAt q => q
  | attributeAt q _ => q

end Locus

def Site.locus : Site → Locus
  | .attributeOf q a => .attributeAt q a
  | .contentOf q => .elementAt q

/-- The elements and attributes of a document, in document order. -/
def Markup.Element.loci (root : Element) : List Locus :=
  root.places.flatMap fun q => .elementAt q :: q.tag.attributes.map (.attributeAt q)

namespace Token

def path? (t : Token) : Option String :=
  match t.body with
  | .property _ => none
  | .node f => some f.path
  | .helper f => some f.path
  | .site f => some f.path

def id? (t : Token) : Option String :=
  match t.body with
  | .property _ => none
  | .node f => some f.id
  | .helper f => some f.id
  | .site f => some f.id

/-- Whether what a token says of names is that of an element or attribute. -/
def Names (t : Token) : Locus → Prop
  | .elementAt q =>
    match t.body with
    | .node _ => True
    | .helper f => f.base = q.tag.name.base ∧ f.uri = q.tag.name.uri.getD "" ∧ f.value = none
    | .site f => f.attributeName = none
    | .property _ => False
  | .attributeAt q a =>
    match t.body with
    | .helper f => f.base = a.name.base ∧ f.uri = a.name.uri.getD "" ∧ f.value = some a.plainValue
    | .site f => f.attributeName = some (qualifiedName q.tags a.name.uri a.name.base)
    | .node _ | .property _ => False

end Token

namespace Outline

def pathTo (o : Outline) : Locus → String
  | .elementAt q => o.pathAt q.address
  | .attributeAt q a => o.attributePath q a

/-- How a token stands for an element or an attribute. -/
structure Points (o : Outline) (l : Locus) (t : Token) : Prop where
  line : t.line = l.owner.tag.line
  path : t.path? = some (o.pathTo l)
  id : t.id? = some (o.digest.hex (o.pathTo l))
  names : t.Names l

end Outline

section Loci

variable {root : Element} {q : Place} {a : Attribute}

theorem mem_loci_elementAt : .elementAt q ∈ root.loci ↔ q ∈ root.places := by
  simp [Element.loci]

theorem mem_loci_attributeAt :
    .attributeAt q a ∈ root.loci ↔ q ∈ root.places ∧ a ∈ q.tag.attributes := by
  simp only [Element.loci, List.mem_flatMap, List.mem_cons, reduceCtorEq, List.mem_map,
    Locus.attributeAt.injEq, false_or]
  constructor
  · rintro ⟨r, hr, b, hb, rfl, rfl⟩
    exact ⟨hr, hb⟩
  · rintro ⟨hq, ha⟩
    exact ⟨q, hq, a, ha, rfl, rfl⟩

end Loci

namespace Pass

variable {p : Pass} {policy : Policy} {root : Element} {t : Token}

theorem points_of_outline_eq_site {o : Outline} {s : Site} (h : t.outline = o.site s) :
    o.Points s.locus t := by
  cases t with
  | mk kind line body =>
    cases s with
    | attributeOf _ _ | contentOf _ =>
      cases body with
      | site f =>
        simp only [Token.outline, Outline.site, Token.mk.injEq, TokenBody.site.injEq,
          SiteFields.mk.injEq] at h
        obtain ⟨-, rfl, hid, hpath, hname, -⟩ := h
        exact ⟨rfl, congrArg some hpath, congrArg some hid, hname⟩
      | property _ | node _ | helper _ => simp [Token.outline, Outline.site] at h

theorem points_elementHelper (hp : Starts policy root p) (nodes : List Place) {q : Place}
    (hq : q ∈ root.places) :
    (p.outline root).Points (.elementAt q) (p.elementHelperToken (p.view nodes q)) := by
  refine ⟨rfl, ?_, ?_, rfl, rfl, rfl⟩
  · exact congrArg some (hp.pathAt_eq (q := q) hq)
  · exact congrArg some (hp.idAt_eq (q := q) hq)

/-- Every token stands for an element or attribute outside shielded content. -/
theorem Tells.exists_points (hp : Starts policy root p) (h : p.Tells root t) :
    ∃ l ∈ root.loci, l.owner.above.any policy.shields = false ∧ (p.outline root).Points l t := by
  cases h with
  | @node b mem =>
    have hmem := Selector.mem_places_of_mem_nodes mem
    refine ⟨.elementAt b.place, mem_loci_elementAt.2 hmem,
      hp.policy_eq ▸ any_shields_above_node mem, rfl, ?_, ?_, trivial⟩
    · exact congrArg some (hp.pathAt_eq hmem)
    · exact congrArg some (hp.idAt_eq hmem)
  | @elementHelper q mem name =>
    have hmem := Selector.mem_places_of_mem_nodes mem
    exact ⟨.elementAt q, mem_loci_elementAt.2 hmem, hp.policy_eq ▸ any_shields_above_node mem,
      points_elementHelper hp _ hmem⟩
  | @attributeHelper q a mem own =>
    have hmem := Selector.mem_places_of_mem_nodes mem
    have hpath : p.attributePath q.address q.tags a.name = (p.outline root).attributePath q a := by
      rw [Outline.attributePath, ← hp.pathAt_eq hmem]
      rfl
    refine ⟨.attributeAt q a, mem_loci_attributeAt.2 ⟨hmem, (List.mem_filter.1 own).1⟩,
      hp.policy_eq ▸ any_shields_above_node mem, rfl, ?_, ?_, rfl, rfl, rfl⟩
    · exact congrArg some hpath
    · exact congrArg (fun path => some (p.digest.hex path)) hpath
  | site hs hgives =>
    cases hs with
    | @inAttribute r x a mem above tag own delimiter =>
      exact ⟨.attributeAt r a, mem_loci_attributeAt.2 ⟨mem, tag.attributes a own⟩,
        hp.policy_eq ▸ above, points_of_outline_eq_site (outline_attributeOf hp mem tag hgives)⟩
    | @inContent r x mem above tag children text =>
      exact ⟨.elementAt r, mem_loci_elementAt.2 mem, hp.policy_eq ▸ above,
        points_of_outline_eq_site (outline_contentOf hp mem tag hgives)⟩

end Pass

/-- What a token of a stream stands for, if it has a path. -/
theorem Document.exists_points {p : Pass} {policy : Policy} {d : Markup.Document} {t : Token}
    (hp : Pass.Starts policy d.root p)
    (h : t = property .xmlVersion d.version ∨ t = property .xmlEncoding d.encoding
      ∨ p.Tells d.root t) (hpath : t.path?.isSome = true) :
    ∃ l ∈ d.root.loci, l.owner.above.any policy.shields = false
      ∧ (p.outline d.root).Points l t := by
  rcases h with rfl | rfl | htell
  · cases hpath
  · cases hpath
  · exact htell.exists_points hp

end TemplateLexer
