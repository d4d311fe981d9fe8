import TemplateLexer.Proofs.Hierarchy
import TemplateLexer.Proofs.Loci
/-!
Shielded content. No token stands for what is inside a shielding element, and a shielding element
that is a helper keeps its content as the author wrote it, apart from directives.
-/

set_option autoImplicit false

namespace TemplateLexer

open Markup

theorem Policy.isRaw_of_shields {policy : Policy} {t : Tag} (hraw : policy.rawUri.bare ≠ "")
    (h : policy.shields t = true) : policy.isRaw t = true := by
  rw [shields, Bool.and_eq_true, beq_iff_eq, beq_iff_eq] at h
  cases huri : t.name.uri with
  | none =>
    rw [huri] at h
    exact absurd h.1.symm hraw
  | some u =>
    rw [huri] at h
    simp [isRaw, Name.expanded, huri, ← h.1, ← h.2]

theorem Selector.nodeExpressions_of_shields {s : Selector} {q : Place}
    (h : s.policy.shields q.tag = true) : s.nodeExpressions q = [] := by
  have hnone : ∀ (withAttributes : Bool) (r : Place), q.tag ∈ r.tags →
      s.sitesAt withAttributes r = [] := by
    intro withAttributes r hr
    have hout : s.exposed r.tags = false := by
      rw [Selector.exposed, List.any_eq_true.2 ⟨q.tag, hr, h⟩]
      rfl
    rw [sitesAt, hout, if_neg Bool.false_ne_true]
  rw [nodeExpressions, hnone _ q (List.mem_cons_self ..), List.nil_append, List.flatMap_eq_nil_iff]
  intro r hr
  obtain ⟨tags, habove⟩ := Place.exists_above_of_mem_below hr
  refine hnone true r (List.mem_cons_of_mem _ ?_)
  rw [habove]
  exact List.mem_append_right _ (List.mem_cons_self ..)

/-- What the token of a node says of its content, if the node is a helper that shields it. -/
structure Outline.IsShielded (o : Outline) (m : Matcher) (q : Place) (f : NodeFields) : Prop where
  id : f.id = o.idAt q.address
  path : f.path = o.pathAt q.address
  children : o.selector.policy.shields q.tag = true → q.tag.name.isIn o.selector.uris = true →
    f.children = []
  content : o.selector.policy.shields q.tag = true → q.tag.name.isIn o.selector.uris = true →
    f.content = (q.element.withoutDirectives m).printContent

namespace Pass

variable {p : Pass} {policy : Policy} {root : Element} {blocks : List Block} {q n : Place}

theorem eq_of_shields (hq : q ∈ p.selector.nodes root) (hshields : p.policy.shields q.tag = true)
    (hn : n ∈ p.selector.nodes root) (hpre : q.address <+: n.address) :
    n.address = q.address := by
  by_contra hne
  have hbelow : n ∈ q.below := (mem_below_iff (Selector.mem_places_of_mem_nodes hq)).2
    ⟨Selector.mem_places_of_mem_nodes hn, hpre, Ne.symm hne⟩
  obtain ⟨tags, habove⟩ := Place.exists_above_of_mem_below hbelow
  have hinside : n.above.any p.policy.shields = true :=
    List.any_eq_true.2 ⟨q.tag, habove ▸ List.mem_append_right _ (List.mem_cons_self ..), hshields⟩
  rw [any_shields_above_node hn] at hinside
  cases hinside

theorem nodesInside_of_shields (hq : q ∈ p.selector.nodes root)
    (hshields : p.policy.shields q.tag = true) :
    nodesInside (p.selector.nodes root) q = [] := by
  have hapart := Place.apart_nodes p.selector root
  refine List.eq_nil_iff_forall_not_mem.2 fun n hn => ?_
  obtain ⟨hn, habove⟩ := (mem_nodesInside hapart hq).1 hn
  obtain ⟨-, hpre, hne, -⟩ := (nodeAbove?_eq_some_iff hapart).1 habove
  exact hne (eq_of_shields hq hshields hn hpre).symm

theorem cutNodes_of_shields (hq : q ∈ p.selector.nodes root)
    (hshields : p.policy.shields q.tag = true) :
    cutNodes (p.placeholders (p.selector.nodes root)) q.address 0 q.element.children
      = q.element.children := by
  have hnone : ∀ b, q.address <+: b → b ≠ q.address →
      p.placeholders (p.selector.nodes root) b = (fun _ => none) b := by
    intro b hpre hne
    refine placeholders_eq_none fun n hn ha => hne ?_
    rw [← ha] at hpre ⊢
    exact eq_of_shields hq hshields hn hpre
  rw [cutNodes_congr hnone, cutNodes_none fun _ => rfl]

theorem content_of_shields (hraw : p.policy.rawUri.bare ≠ "") (hq : q ∈ p.selector.nodes root)
    (hshields : p.policy.shields q.tag = true)
    (hhelper : q.tag.name.isIn p.selector.uris = true) :
    Content.nodeMarkup p.selector p.directives (p.settled (p.view (p.selector.nodes root) q))
      = (q.element.withoutDirectives p.directives).printContent := by
  have hsettled : p.settled (p.view (p.selector.nodes root) q)
      = p.view (p.selector.nodes root) q :=
    settled_of_nodeExpressions (Selector.nodeExpressions_of_shields hshields)
  have hisRaw : p.selector.policy.isRaw (p.view (p.selector.nodes root) q).tag = true :=
    Policy.isRaw_of_shields hraw hshields
  have hin : (p.view (p.selector.nodes root) q).tag.name.isIn p.selector.uris = true := hhelper
  have hchildren : (p.view (p.selector.nodes root) q).element.children = q.element.children :=
    cutNodes_of_shields hq hshields
  rw [hsettled, Content.nodeMarkup, if_pos hin, if_pos hisRaw, Element.printContent,
    Element.printContent, Element.withoutDirectives, Element.withoutDirectives, Element.detached,
    hchildren]

theorem isShielded_nodeFields {name : String} (hp : Starts policy root p)
    (hblocks : p.Blocks root blocks) (hraw : policy.rawUri.bare ≠ "") (hname : policy.Names name)
    (hlacks : root.Lacks name) {b : Block} (hb : b ∈ blocks) :
    (p.outline root).IsShielded p.directives b.place
      (p.nodeFields (p.selector.nodes root) b) := by
  have hnode := hblocks.mem_nodes hb
  have hmem := Selector.mem_places_of_mem_nodes hnode
  refine ⟨hp.idAt_eq hmem, hp.pathAt_eq hmem, fun hshields _ => ?_, fun hshields hhelper => ?_⟩
  · have hnone := nodesInside_of_shields hnode hshields
    rw [nodeFields, hblocks.children_eq hp hname hlacks hb, hnone]
    rfl
  · rw [nodeFields]
    exact content_of_shields (hp.policy_eq ▸ hraw) hnode hshields hhelper

end Pass

namespace Document

/-- What a stream says of shielding elements. Its tokens stand for elements and attributes that are
not inside one of them, and have none of the paths there if paths tell elements and attributes
apart. A shielding element that is a helper has its content as it was written, but for directives.
-/
theorem lex_shielded {policy : Policy} {d : Markup.Document} {file : Option String}
    {stream : LexedStream} (hraw : policy.rawUri.bare ≠ "")
    (h : (lex policy d file).run.1 = .ok stream) :
    ∃ (o : Outline) (m : Matcher), o.IsOf policy d.root ∧ policy.matcher = .ok m
      ∧ (∀ t ∈ stream.toList, t.path?.isSome = true →
        ∃ l ∈ d.root.loci, l.owner.above.any policy.shields = false ∧ o.Points l t)
      ∧ ((∀ k ∈ d.root.loci, ∀ l ∈ d.root.loci, o.pathTo k = o.pathTo l → k = l) →
        ∀ l ∈ d.root.loci, l.owner.above.any policy.shields = true →
          ∀ t ∈ stream.toList, t.path? ≠ some (o.pathTo l))
      ∧ (∀ name, policy.Names name → d.root.Lacks name →
        List.Forall₂ (o.IsShielded m) (byDepth (o.selector.nodes d.root))
          (stream.toList.filterMap Token.node?)) := by
  obtain ⟨p, blocks, hp, -, hblocks, hstream⟩ := lex_ok h
  have hpoints : ∀ t ∈ stream.toList, t.path?.isSome = true →
      ∃ l ∈ d.root.loci, l.owner.above.any policy.shields = false
        ∧ (p.outline d.root).Points l t := by
    intro t ht hpath
    rw [hstream] at ht
    exact exists_points hp (tells_of_mem_stream hp hblocks ht) hpath
  refine ⟨p.outline d.root, p.directives, hp.isOf, hp.directives, hpoints, ?_, ?_⟩
  · intro hinj l hl hinside t ht hpath
    obtain ⟨k, hk, houtside, hpoint⟩ := hpoints t ht (hpath ▸ rfl)
    obtain rfl := hinj k hk l hl (Option.some.inj (hpoint.path.symm.trans hpath))
    rw [houtside] at hinside
    cases hinside
  · intro name hname hlacks
    have hall : (p.outline d.root).selector.nodes d.root = p.selector.nodes d.root := rfl
    rw [hall, hstream, nodeFields_stream hblocks, ← hblocks.places, List.forall₂_map_left_iff,
      List.forall₂_map_right_iff, List.forall₂_same]
    exact fun b hb => Pass.isShielded_nodeFields hp hblocks hraw hname hlacks hb

/-- `<r xmlns:x="urn:x" xmlns:e="http://elixir.mohiva.com"><e:Raw x:k="{% a %}"><x:i/>
<!--c--></e:Raw></r>`, without the line break. -/
def sampleWithRaw : Markup.Document where
  version := "1.0"
  encoding := "UTF-8"
  leading := []
  doctype := none
  before := []
  root :=
    let name (qualifier uri base : String) : Name := ⟨some qualifier, some uri, base⟩
    ⟨⟨.bare "r", [⟨some "x", "urn:x"⟩, ⟨some "e", "http://elixir.mohiva.com"⟩], [], 1⟩,
      [.element ⟨name "e" "http://elixir.mohiva.com" "Raw", [],
          [⟨name "x" "urn:x" "k", [.text "{% a %}"]⟩], 1⟩
        [.element ⟨name "x" "urn:x" "i", [], [], 1⟩ [], .comment "c"]]⟩
  after := []

theorem lex_shielded_sample : Policy.standard.rawUri.bare ≠ ""
    ∧ ∃ stream m, (lex .standard sampleWithRaw none).run.1 = .ok stream
      ∧ Policy.standard.matcher = .ok m
      ∧ ∃ o : Outline, o.IsOf .standard sampleWithRaw.root
        ∧ List.Forall₂ (o.IsShielded m) (byDepth (o.selector.nodes sampleWithRaw.root))
          (stream.toList.filterMap Token.node?) := by
  obtain ⟨stream, h⟩ := Except.exists_of_isOk
    (show (lex .standard sampleWithRaw none).run.1.isOk = true by decide +kernel)
  have hlacks : sampleWithRaw.root.Lacks "__N_-_O_-_D_-_E__" := by
    rw [Element.Lacks]
    decide +kernel
  have hraw : Policy.standard.rawUri.bare ≠ "" := by decide
  obtain ⟨o, m, ho, hm, -, -, hnodes⟩ := lex_shielded hraw h
  exact ⟨hraw, stream, m, h, hm, o, ho, hnodes _ Policy.names_standard hlacks⟩

/-- A policy in which the first of two elements shields its content whose names differ in the 97th
letter. -/
def policyOfTwins : Policy :=
  { Policy.standard with
    rawUri := .str "urn:p"
    rawBase := .str (String.ofList (List.replicate 96 'n' ++ ['a'])) }

/-- `<r xmlns:p="urn:p"><p:n…na><p:c/></p:n…na><p:n…nb><p:c/></p:n…nb></r>` -/
def twinParents : Markup.Document where
  version := "1.0"
  encoding := "UTF-8"
  leading := []
  doctype := none
  before := []
  root :=
    let name (base : String) : Name := ⟨some "p", some "urn:p", base⟩
    let twin (last : Char) : Node :=
      .element ⟨name (String.ofList (List.replicate 96 'n' ++ [last])), [], [], 1⟩
        [.element ⟨name "c", [], [], 1⟩ []]
    ⟨⟨.bare "r", [⟨some "p", "urn:p"⟩], [], 1⟩, [twin 'a', twin 'b']⟩
  after := []

/-- A token may have the path of what is inside a shielding element where paths are cut. -/
theorem lex_shielded_twins :
    let o : Outline := ⟨⟨["urn:p"], policyOfTwins, fun _ => ""⟩, .sha1, twinParents.root⟩
    policyOfTwins.rawUri.bare ≠ ""
      ∧ ∃ q ∈ twinParents.root.places, q.above.any policyOfTwins.shields = true
        ∧ ((lex policyOfTwins twinParents none).run.1.toOption.map fun stream =>
          stream.toList.any fun t => t.path? == some (o.pathAt q.address)) = some true := by
  intro o
  obtain ⟨q, hq, ha, hinside⟩ : ∃ q ∈ twinParents.root.places,
      q.address = [0, 0] ∧ q.above.any policyOfTwins.shields = true := by
    decide +kernel
  have hpath : o.pathAt [0, 0] = o.pathAt [1, 0] := by
    have hsteps : twinParents.root.steps [0, 0] = twinParents.root.steps [1, 0] := by
      decide +kernel
    rw [Outline.pathAt, Outline.pathAt, Element.path?, Element.path?, hsteps]
  refine ⟨by decide, q, hq, hinside, ?_⟩
  rw [ha, hpath]
  decide +kernel

end Document

end TemplateLexer
