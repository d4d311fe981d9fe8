import Mathlib.Data.List.TakeWhile
import TemplateLexer.Proofs.FilledTags
import TemplateLexer.Proofs.Outline
/-!
Names in no namespace. As long as the empty text is not among the namespaces of helpers, what has no
namespace is no helper: it has no helper token, and its attributes stay in the markup of nodes.
-/

set_option autoImplicit false

namespace TemplateLexer

open Markup

section Kept

open Content

theorem tagsIn_joinRun (before : List Node) (s : String) :
    tagsIn (joinRun before s).reverse = tagsIn before.reverse := by
  rw [joinRun]
  split
  · rfl
  · have hrun : tagsIn (before.takeWhile Node.isCharacters).reverse = [] := by
      refine tagsIn_of_characters fun n hn => ?_
      exact List.mem_takeWhile_imp (List.mem_reverse.1 hn)
    have hbefore : tagsIn before.reverse
        = tagsIn (before.dropWhile Node.isCharacters).reverse := by
      conv_lhs => rw [← List.takeWhile_append_dropWhile (p := Node.isCharacters) (l := before)]
      rw [List.reverse_append, tagsIn_append, hrun, List.append_nil]
    rw [List.reverse_cons, tagsIn_append, hbefore]
    simp [tagsIn, Node.tags]

mutual

theorem tags_withoutDirectives (m : Matcher) (n : Node) :
    (withoutDirectives m n).tags = n.tags := by
  cases n with
  | element tag children =>
    rw [withoutDirectives, Node.tags, Node.tags, tagsIn_dropDirectives m [] none children]
    rfl
  | text _ | cdata _ | comment _ | instruction _ _ | reference _ => simp [withoutDirectives]

theorem tagsIn_dropDirectives (m : Matcher) (before : List Node) (tail : Option String)
    (nodes : List Node) : tagsIn (dropDirectives m before tail nodes)
      = tagsIn before.reverse ++ tagsIn nodes := by
  cases nodes with
  | nil => rw [dropDirectives, tagsIn_joinRun, tagsIn, List.append_nil]
  | cons n rest =>
    have hkept : ∀ x : Node, x.tags = n.tags →
        tagsIn (dropDirectives m (x :: joinRun before (tail.getD "")) none rest)
          = tagsIn before.reverse ++ tagsIn (n :: rest) := by
      intro x hx
      rw [tagsIn_dropDirectives m _ none rest, List.reverse_cons, tagsIn_append, tagsIn_joinRun,
        tagsIn, tagsIn, tagsIn, hx, List.append_nil, List.append_assoc]
    have hskipped : n.tags = [] → ∀ before' tail', tagsIn before'.reverse = tagsIn before.reverse →
        tagsIn (dropDirectives m before' tail' rest)
          = tagsIn before.reverse ++ tagsIn (n :: rest) := by
      intro hn before' tail' hbefore
      rw [tagsIn_dropDirectives m before' tail' rest, hbefore, tagsIn, hn, List.nil_append]
    cases n with
    | text s =>
      cases tail with
      | some t => exact hskipped rfl before _ rfl
      | none => exact hkept _ (tags_withoutDirectives m _)
    | cdata s =>
      cases tail with
      | some t => exact hskipped rfl before _ rfl
      | none => exact hkept _ (tags_withoutDirectives m _)
    | comment body =>
      rw [dropDirectives]
      split
      · exact hskipped rfl _ _ (tagsIn_joinRun _ _)
      · exact hkept _ rfl
    | element tag children =>
      rw [dropDirectives]
      · exact hkept _ (tags_withoutDirectives m _)
      all_goals simp
    | instruction target data =>
      rw [dropDirectives]
      · exact hkept _ (tags_withoutDirectives m _)
      all_goals simp
    | reference name =>
      rw [dropDirectives]
      · exact hkept _ (tags_withoutDirectives m _)
      all_goals simp

end

mutual

theorem map_body_withoutUnused (keep : List String) (n : Node) :
    (withoutUnused keep n).tags.map Tag.body = n.tags.map Tag.body := by
  cases n with
  | element tag children =>
    rw [withoutUnused, Node.tags, Node.tags, List.map_cons, List.map_cons,
      map_body_withoutUnusedAll keep children]
    rfl
  | text _ | cdata _ | comment _ | instruction _ _ | reference _ => simp [withoutUnused]

theorem map_body_withoutUnusedAll (keep : List String) (nodes : List Node) :
    (tagsIn (withoutUnusedAll keep nodes)).map Tag.body = (tagsIn nodes).map Tag.body := by
  cases nodes with
  | nil => rfl
  | cons n rest =>
    rw [withoutUnusedAll, tagsIn, tagsIn, List.map_append, List.map_append,
      map_body_withoutUnused keep n, map_body_withoutUnusedAll keep rest]

end

theorem node_stripped (uris : List String) (above : List Tag) (e : Element) :
    (stripped uris above e).node = withoutUnused (keptQualifiers uris above e) e.node := by
  rw [stripped]
  split
  · rename_i h
    exact h.symm
  · rename_i h
    rw [Element.node, withoutUnused] at h
    exact absurd rfl (h _ _)

theorem map_body_stripped (uris : List String) (above : List Tag) (e : Element) :
    (stripped uris above e).node.tags.map Tag.body = e.node.tags.map Tag.body := by
  rw [node_stripped, map_body_withoutUnused]

/-- The markup of a node shows all tags in the node: what is taken away on the way to it are
directives and declarations. -/
theorem nodeMarkup_eq (s : Selector) (m : Matcher) (q : Place) : ∃ e : Element,
    nodeMarkup s m q = (if q.tag.name.isIn s.uris then e.printContent else e.print)
      ∧ e.node.tags.map Tag.body = q.element.node.tags.map Tag.body := by
  have hcopy : ((q.element.detached q.above).withoutDirectives m).node.tags.map Tag.body
      = q.element.node.tags.map Tag.body := by
    have htags : tagsIn (dropDirectives m [] none q.element.children)
        = tagsIn q.element.children := tagsIn_dropDirectives m [] none _
    rw [Element.withoutDirectives, Element.detached, Element.node, Element.node, Node.tags,
      Node.tags, htags]
    rfl
  refine ⟨_, rfl, ?_⟩
  split
  · exact hcopy
  · exact (map_body_stripped _ _ _).trans hcopy

end Kept

section Helpers

/-- What the token of a helper says of it. -/
def Token.helper? (t : Token) : Option HelperFields :=
  match t.body with
  | .helper f => some f
  | _ => none

/-- A helper in a document: an element itself, or an attribute that it carries. -/
inductive HelperAt where
  | itself (q : Place)
  | carried (q : Place) (a : Attribute)

def HelperAt.name : HelperAt → Name
  | itself q => q.tag.name
  | carried _ a => a.name

namespace Outline

variable (o : Outline)

/-- The helpers at a node, in the order of their tokens. -/
def helpersAt (q : Place) : List HelperAt :=
  (if q.tag.name.isIn o.selector.uris then [.itself q] else [])
    ++ (q.tag.attributes.filter (·.name.isIn o.selector.uris)).map (.carried q)

/-- What a token says of a helper. -/
def helperFields : HelperAt → HelperFields
  | .itself q => ⟨o.idAt q.address, o.pathAt q.address, q.tag.name.base, q.tag.name.uri.getD "",
      entriesOf (o.plainEntries q), none⟩
  | .carried q a => ⟨o.digest.hex (o.attributePath q a), o.attributePath q a, a.name.base,
      a.name.uri.getD "", [], some (a.valueWith o.selector.expand)⟩

theorem helper?_outline (t : Token) : t.outline.helper? = t.helper? := by
  obtain ⟨kind, line, body⟩ := t
  cases body <;> rfl

theorem helper?_site (s : Site) : (o.site s).helper? = none := by
  cases s <;> rfl

theorem filterMap_helper?_sites (sites : List Site) :
    (sites.map o.site).filterMap Token.helper? = [] := by
  rw [List.filterMap_map, List.filterMap_eq_nil_iff]
  exact fun s _ => o.helper?_site s

theorem filterMap_helper?_block (q : Place) :
    (o.block q).filterMap Token.helper? = (o.helpersAt q).map o.helperFields := by
  have hnode : (o.node q).helper? = none := rfl
  have helement : (o.elementPart q).filterMap Token.helper?
      = (if q.tag.name.isIn o.selector.uris then [HelperAt.itself q] else []).map
          o.helperFields := by
    rw [elementPart]
    split
    · have hsites := o.filterMap_helper?_sites
        ((o.selector.plainExpressions q.tag).map (.attributeOf q))
      rw [List.map_map] at hsites
      show o.helperFields (.itself q) :: (List.map _ _).filterMap Token.helper? = _
      exact congrArg _ hsites
    · rfl
  have hattribute : ∀ a, (o.attributePart q a).filterMap Token.helper?
      = [o.helperFields (.carried q a)] := by
    intro a
    rw [attributePart]
    show o.helperFields (.carried q a) :: (if o.selector.holdsDelimiter a then _ else
      []).filterMap Token.helper? = _
    split
    · exact congrArg _ (o.filterMap_helper?_sites [.attributeOf q a])
    · rfl
  rw [block, List.filterMap_cons_none hnode, List.filterMap_append, List.filterMap_append,
    filterMap_helper?_sites, helement, List.filterMap_flatMap, helpersAt, List.map_append,
    List.map_map]
  simp only [hattribute, List.nil_append, ← List.map_eq_flatMap]
  rfl

theorem exists_uri_of_isIn {uris : List String} (he : "" ∉ uris) {n : Name}
    (hn : n.isIn uris = true) : ∃ u, n.uri = some u ∧ u ≠ "" ∧ u ∈ uris := by
  rw [Name.isIn] at hn
  split at hn
  · rename_i u hu
    have hmem : u ∈ uris := by simpa using hn
    exact ⟨u, hu, fun hempty => he (hempty ▸ hmem), hmem⟩
  · cases hn

/-- A helper has a namespace, unless the empty text counts as one. -/
theorem exists_uri_of_mem_helpersAt (he : "" ∉ o.selector.uris) {q : Place} {x : HelperAt}
    (hx : x ∈ o.helpersAt q) :
    ∃ u, x.name.uri = some u ∧ u ≠ "" ∧ u ∈ o.selector.uris := by
  rcases List.mem_append.1 hx with hx | hx
  · split at hx
    · rename_i hin
      obtain rfl := List.mem_singleton.1 hx
      exact exists_uri_of_isIn he hin
    · cases hx
  · obtain ⟨a, ha, rfl⟩ := List.mem_map.1 hx
    exact exists_uri_of_isIn he (List.mem_filter.1 ha).2

/-- A node that is not the root and has no namespace carries a helper. -/
theorem exists_attribute_of_isNode (he : "" ∉ o.selector.uris) {q : Place}
    (hq : o.isNode q = true) (hroot : q.address ≠ []) (huri : q.tag.name.uri.getD "" = "") :
    ∃ a ∈ q.tag.attributes, ∃ u, a.name.uri = some u ∧ u ≠ "" ∧ u ∈ o.selector.uris := by
  simp only [isNode, Bool.or_eq_true, Bool.and_eq_true, beq_iff_eq, hroot, false_or,
    List.any_eq_true] at hq
  obtain ⟨-, hin | ⟨a, ha, hin⟩⟩ := hq
  · obtain ⟨u, hu, hne, -⟩ := exists_uri_of_isIn he hin
    rw [hu] at huri
    exact absurd huri hne
  · exact ⟨a, ha, exists_uri_of_isIn he hin⟩

end Outline

end Helpers

section Empty

theorem mem_extend {d : Declaration} {bound new : List Declaration} (h : d ∈ extend bound new) :
    d ∈ bound ∨ d ∈ new := by
  induction new generalizing bound with
  | nil => exact .inl h
  | cons b rest ih =>
    rw [extend] at h
    split at h
    · rcases ih h with h | h
      · exact .inl h
      · exact .inr (List.mem_cons_of_mem _ h)
    · rcases ih h with h | h
      · rcases List.mem_append.1 h with h | h
        · exact .inl h
        · exact .inr (List.mem_singleton.1 h ▸ List.mem_cons_self ..)
      · exact .inr (List.mem_cons_of_mem _ h)

theorem exists_mem_of_mem_bindings {d : Declaration} {tags : List Tag} (h : d ∈ bindings tags) :
    ∃ t ∈ tags, d ∈ t.declarations := by
  rw [bindings_eq_extend] at h
  rcases mem_extend h with h | h
  · cases h
  · exact List.mem_flatMap.1 h

theorem exists_locate_of_mem_tags {e x : Element} {above ab : List Tag} {a : Address} {t : Tag}
    (h : e.locate above a = some (ab, x)) (ht : t ∈ x.tag :: ab) :
    t ∈ above ∨ ∃ b ab' y, e.locate above b = some (ab', y) ∧ y.tag = t := by
  induction a generalizing e above with
  | nil =>
    cases h
    rcases List.mem_cons.1 ht with rfl | ht
    · exact .inr ⟨[], _, _, rfl, rfl⟩
    · exact .inl ht
  | cons i a ih =>
    rw [Element.locate] at h
    split at h
    · rename_i tag children hi
      rcases ih h with hmem | ⟨b, ab', y, hy, hyt⟩
      · rcases List.mem_cons.1 hmem with rfl | hmem
        · exact .inr ⟨[], _, _, rfl, rfl⟩
        · exact .inl hmem
      · exact .inr ⟨i :: b, ab', y, by rw [Element.locate, hi]; exact hy, hyt⟩
    · cases h

theorem exists_place_of_mem_tags {root : Element} {q : Place} (hq : q ∈ root.places) {t : Tag}
    (ht : t ∈ q.tags) : ∃ r ∈ root.places, r.tag = t := by
  rcases exists_locate_of_mem_tags (mem_places_iff.1 hq) ht with hmem | ⟨b, ab, y, hy, hyt⟩
  · cases hmem
  · exact ⟨⟨b, ab, y⟩, mem_places_iff.2 hy, hyt⟩

namespace Policy

variable {policy : Policy} {root : Element} {allowed : List Json} {declared uris : List String}
  {u : String}

theorem helpersAmong_of_classify (h : (policy.classify root).run.1 = .ok uris) :
    ∃ allowed log, policy.checked [] = (.ok allowed, log)
      ∧ policy.helpersAmong allowed (declaredNamespaces root) = .ok uris := by
  obtain ⟨log, h⟩ := Logged.run_ok h
  obtain ⟨allowed, l₁, hallowed, h⟩ := Logged.bind_ok h
  obtain ⟨helpers, l₂, hhelpers, h⟩ := Logged.bind_ok h
  obtain ⟨_, l₃, -, h⟩ := Logged.bind_ok h
  obtain rfl := Logged.pure_ok h
  exact ⟨allowed, l₁, hallowed, (Logged.ofExcept_ok hhelpers).1⟩

theorem mem_of_helpersAmong (h : policy.helpersAmong allowed declared = .ok uris) (hu : u ∈ uris) :
    u ∈ declared ∧ ∃ denied, policy.denied = some denied
      ∧ (!(Json.str u).isIn denied && (policy.allowed.isNone || (Json.str u).isIn allowed))
        = true := by
  rw [helpersAmong] at h
  split at h
  · split at h
    · cases h
      cases hu
    · cases h
  · rename_i denied hdenied
    cases h
    obtain ⟨hdeclared, hholds⟩ := List.mem_filter.1 hu
    exact ⟨hdeclared, denied, hdenied, hholds⟩

end Policy

/-- The namespaces that are classified are declared in the document. -/
theorem exists_declaration {policy : Policy} {root : Element} {uris : List String}
    (h : (policy.classify root).run.1 = .ok uris) {u : String} (hu : u ∈ uris) :
    ∃ q ∈ root.places, ∃ b ∈ q.tag.declarations, b.uri = u := by
  obtain ⟨allowed, log, -, hhelpers⟩ := Policy.helpersAmong_of_classify h
  obtain ⟨hdeclared, -⟩ := Policy.mem_of_helpersAmong hhelpers hu
  rw [declaredNamespaces, mem_distinct, List.mem_flatMap] at hdeclared
  obtain ⟨q, hq, hdeclared⟩ := hdeclared
  obtain ⟨b, hb, rfl⟩ := List.mem_map.1 hdeclared
  obtain ⟨t, ht, hb⟩ := exists_mem_of_mem_bindings hb
  obtain ⟨r, hr, rfl⟩ := exists_place_of_mem_tags hq ht
  exact ⟨r, hr, b, hb, rfl⟩

end Empty

section Shown

variable {p : Pass} {policy : Policy} {root : Element} {blocks : List Block} {nodes : List Place}
  {q r : Place}

/-- What a node shows at a place: the placeholder of another node, or a tag with the name and the
attributes in no namespace of the element there. In hypertext their switches may be filled. -/
def ShowsAt (hypertext : Bool) (nodes : List Place) (q r : Place) (t : Tag) : Prop :=
  (r ∈ nodes ∧ r.address ≠ q.address)
    ∨ t.name = r.tag.name ∧ (t.unqualified = r.tag.unqualified
      ∨ hypertext = true ∧ t.unqualified = r.tag.unqualified.map (Hypertext.fillAttribute []))

theorem forall₂_showsAt_congr {hypertext : Bool} {places : List Place} {tags tags' : List Tag}
    (h : List.Forall₂ (ShowsAt hypertext nodes q) places tags)
    (hbody : tags'.map Tag.body = tags.map Tag.body) :
    List.Forall₂ (ShowsAt hypertext nodes q) places tags' := by
  induction h generalizing tags' with
  | nil =>
    rw [List.map_eq_nil_iff.1 hbody]
    exact .nil
  | @cons r t _ _ ht _ ih =>
    obtain ⟨t', rest, rfl, ht', hrest⟩ := List.map_eq_cons_iff.1 hbody
    obtain ⟨hname, hattributes⟩ := Prod.mk.inj ht'
    refine .cons ?_ (ih hrest)
    rcases ht with hother | ⟨hn, ha⟩
    · exact .inl hother
    · refine .inr ⟨hname.trans hn, ?_⟩
      rw [Tag.unqualified, hattributes]
      exact ha

theorem showsAt_of_mayFill {t t' : Tag} (h : ShowsAt false nodes q r t) (hfill : t.MayFill t') :
    ShowsAt true nodes q r t' := by
  rcases h with hother | ⟨hname, hattributes | ⟨hfalse, -⟩⟩
  · exact .inl hother
  · rcases hfill with rfl | rfl
    · exact .inr ⟨hname, .inl hattributes⟩
    · exact .inr ⟨hname, .inr ⟨rfl, by rw [unqualified_fillTag, hattributes]⟩⟩
  · cases hfalse

theorem forall₂_showsAt_of_mayFill {places : List Place} {tags tags' : List Tag}
    (h : List.Forall₂ (ShowsAt false nodes q) places tags)
    (hfill : List.Forall₂ Tag.MayFill tags tags') :
    List.Forall₂ (ShowsAt true nodes q) places tags' := by
  induction h generalizing tags' with
  | nil =>
    cases hfill
    exact .nil
  | cons ht _ ih =>
    cases hfill with
    | cons hfirst hrest => exact .cons (showsAt_of_mayFill ht hfirst) (ih hrest)

theorem unqualified_plainTag {s : Selector} (he : "" ∉ s.uris) (t : Tag) :
    (s.plainTag t).unqualified = t.unqualified := by
  rw [Tag.unqualified, Selector.plainTag, List.filter_filter, Tag.unqualified]
  refine List.filter_congr fun a _ => ?_
  cases huri : a.name.uri.getD "" == "" with
  | false => rfl
  | true =>
    rw [Name.isInOrEmpty, eq_of_beq huri]
    simp [he]

/-- The tags in a node are the one of the node, those of the elements that belong to it, and those
of placeholders. -/
theorem Pass.showsAt_view (h : p.Blocks root blocks) (he : "" ∉ p.selector.uris)
    (hq : q ∈ p.selector.nodes root) :
    List.Forall₂ (ShowsAt false (p.selector.nodes root) q)
      (q :: q.below.filter (Place.isNearest (p.selector.nodes root) q))
      (p.view (p.selector.nodes root) q).element.node.tags := by
  have hmem := Selector.mem_places_of_mem_nodes hq
  have hbelow : tagsIn (p.view (p.selector.nodes root) q).element.children
      = (q.below.filter (Place.isNearest (p.selector.nodes root) q)).map
          fun r => (p.standing (p.selector.nodes root) r).tag := by
    rw [← map_tag_placesBelow q.address (p.view (p.selector.nodes root) q).tags 0]
    have hview := below_view (Place.apart_nodes p.selector root) (h.fills.inside q) hq
    rw [Place.below] at hview
    exact (congrArg (List.map Place.tag) hview).trans (by rw [List.map_map, List.map_map]; rfl)
  rw [Element.node, Node.tags, hbelow]
  refine .cons (.inr ⟨rfl, .inl (unqualified_plainTag he q.tag)⟩) ?_
  rw [List.forall₂_map_right_iff, List.forall₂_same]
  intro r hr
  have hr' := (List.mem_filter.1 hr).1
  cases hstanding : p.placeholders (p.selector.nodes root) r.address with
  | none =>
    have htag : (p.standing (p.selector.nodes root) r).tag = r.tag := by
      rw [standing, hstanding]
      rfl
    rw [htag]
    exact .inr ⟨rfl, .inl rfl⟩
  | some e =>
    obtain ⟨n, hfind, -⟩ := Option.bind_eq_some_iff.1 hstanding
    obtain ⟨hn, ha⟩ := (find?_eq_some_iff_mem (Place.apart_nodes p.selector root)).1 hfind
    rw [eq_of_mem_places (Selector.mem_places_of_mem_nodes hn) ((mem_below_iff hmem).1 hr').1 ha]
      at hn
    exact .inl ⟨hn, (prefix_of_mem_below hr').2.symm⟩

theorem Pass.showsAt_settled (h : p.Blocks root blocks) (he : "" ∉ p.selector.uris)
    (hq : q ∈ p.selector.nodes root) :
    List.Forall₂ (ShowsAt p.hypertext (p.selector.nodes root) q)
      (q :: q.below.filter (Place.isNearest (p.selector.nodes root) q))
      (p.settled (p.view (p.selector.nodes root) q)).element.node.tags := by
  have hview := Pass.showsAt_view h he hq
  rw [settled]
  cases p.hypertext with
  | false => exact hview
  | true =>
    exact forall₂_showsAt_of_mayFill hview (tags_written p.selector _)

/-- The helper tokens of all blocks. -/
theorem Pass.filterMap_helper?_blocks (hp : Starts policy root p) (h : p.Blocks root blocks)
    (he : "" ∉ p.selector.uris) :
    (blocks.flatMap (p.blockTokens (p.selector.nodes root))).filterMap Token.helper?
      = ((blocks.map (·.place)).flatMap (p.outline root).helpersAt).map
          (p.outline root).helperFields := by
  rw [List.filterMap_flatMap, List.map_flatMap, List.flatMap_map]
  refine List.flatMap_congr fun b hb => ?_
  have houtline : (p.blockTokens (p.selector.nodes root) b).filterMap Token.helper?
      = ((p.blockTokens (p.selector.nodes root) b).map Token.outline).filterMap
          Token.helper? := by
    rw [List.filterMap_map]
    exact List.filterMap_congr fun t _ => (Outline.helper?_outline t).symm
  rw [houtline, outline_block hp h he hb, Outline.filterMap_helper?_block]

end Shown

namespace Document

/-- Names in no namespace, unless the empty text is among the namespaces of helpers because an
element declares it. Helpers have namespaces; a node without one carries a helper, unless it is the
root; and the markup of a node shows all attributes in no namespace of what belongs to the node,
with their values but for filled switches. -/
theorem lex_namespaces {policy : Policy} {d : Markup.Document} {file : Option String}
    {stream : LexedStream} (h : (lex policy d file).run.1 = .ok stream) :
    ∃ o : Outline, o.IsOf policy d.root
      ∧ ("" ∈ o.selector.uris → ∃ q ∈ d.root.places, ∃ b ∈ q.tag.declarations, b.uri = "")
      ∧ ("" ∉ o.selector.uris →
        stream.toList.filterMap Token.helper?
            = ((byDepth o.nodes).flatMap o.helpersAt).map o.helperFields
          ∧ (∀ q, ∀ x ∈ o.helpersAt q, ∃ u, x.name.uri = some u ∧ u ≠ ""
            ∧ u ∈ o.selector.uris ∧ (o.helperFields x).uri = u)
          ∧ (∀ q ∈ o.nodes, q.address ≠ [] → q.tag.name.uri.getD "" = "" →
            ∃ a ∈ q.tag.attributes, ∃ u, a.name.uri = some u ∧ u ≠ "" ∧ u ∈ o.selector.uris)
          ∧ List.Forall₂ (fun q (f : NodeFields) => f.id = o.idAt q.address
              ∧ ∃ e : Element, f.content
                  = (if q.tag.name.isIn o.selector.uris then e.printContent else e.print)
                ∧ List.Forall₂ (ShowsAt d.isHypertext o.nodes q)
                    (q :: q.below.filter (Place.isNearest o.nodes q)) e.node.tags)
            (byDepth o.nodes) (stream.toList.filterMap Token.node?)) := by
  obtain ⟨p, blocks, hp, hhypertext, hblocks, rfl⟩ := lex_ok h
  refine ⟨p.outline d.root, hp.isOf, exists_declaration hp.uris, fun he => ?_⟩
  have hnodes : (p.outline d.root).nodes = p.selector.nodes d.root := Pass.nodes_outline he
  refine ⟨?_, fun q x hx => ?_, fun q hq hroot huri => ?_, ?_⟩
  · rw [hnodes, ← hblocks.places]
    exact Pass.filterMap_helper?_blocks hp hblocks he
  · obtain ⟨u, hu, hne, hmem⟩ := (p.outline d.root).exists_uri_of_mem_helpersAt he hx
    refine ⟨u, hu, hne, hmem, ?_⟩
    cases x <;> exact congrArg (Option.getD · "") hu
  · exact (p.outline d.root).exists_attribute_of_isNode he (List.mem_filter.1 hq).2 hroot huri
  · rw [nodeFields_stream hblocks, hnodes, ← hblocks.places, List.forall₂_map_left_iff,
      List.forall₂_map_right_iff, List.forall₂_same]
    intro b hb
    have hnode := hblocks.mem_nodes hb
    obtain ⟨e, hcontent, htags⟩ := nodeMarkup_eq p.selector p.directives
      (p.settled (p.view (p.selector.nodes d.root) b.place))
    rw [Pass.tag_settled] at hcontent
    refine ⟨hp.idAt_eq (Selector.mem_places_of_mem_nodes hnode), e, hcontent, ?_⟩
    rw [← hhypertext]
    exact forall₂_showsAt_congr (Pass.showsAt_settled hblocks he hnode) htags

theorem lex_namespaces_sample : ∃ stream, (lex .standard sample none).run.1 = .ok stream
    ∧ (let o : Outline := ⟨⟨["urn:x"], .standard, fun _ => ""⟩, .sha1, sample.root⟩
      stream.toList.filterMap Token.helper?
          = ((byDepth o.nodes).flatMap o.helpersAt).map o.helperFields
        ∧ (o.nodes.flatMap o.helpersAt).map HelperAt.name
          = [⟨some "x", some "urn:x", "k"⟩, ⟨some "x", some "urn:x", "i"⟩]) := by
  obtain ⟨stream, h⟩ := Except.exists_of_isOk
    (show (lex .standard sample none).run.1.isOk = true by decide +kernel)
  obtain ⟨o, ho, -, hnamespaces⟩ := lex_namespaces h
  obtain rfl := eq_of_isOf_sample ho
  exact ⟨stream, h, (hnamespaces (by decide)).1, by decide +kernel⟩

/-- `<r a="1"><b xmlns=""/></r>` -/
def sampleOfEmptyUri : Markup.Document where
  version := "1.0"
  encoding := "UTF-8"
  leading := []
  doctype := none
  before := []
  root :=
    ⟨⟨.bare "r", [], [⟨.bare "a", [.text "1"]⟩], 1⟩,
      [.element ⟨.bare "b", [⟨none, ""⟩], [], 1⟩ []]⟩
  after := []

/-- A declaration of the empty namespace somewhere in a document makes helpers of all attributes in
no namespace, and nodes of all elements in none. -/
theorem lex_namespaces_emptyUri :
    ((lex .standard sampleOfEmptyUri none).run.1.toOption.map fun stream =>
        (stream.toList.filterMap Token.helper?).map fun f => (f.base, f.uri))
      = some [("a", "")]
      ∧ ((lex .standard sampleOfEmptyUri none).run.1.toOption.map fun stream =>
          (stream.toList.filterMap Token.node?).map fun f => (f.path, f.content))
        = some [("/r",
            "<r><__N_-_O_-_D_-_E__ id=\"8f8e68dedab31f081f8c4d161451a0ee5884bbaf\"/></r>"),
          ("/r/b", "<b/>")] := by
  decide +kernel

end Document

end TemplateLexer
