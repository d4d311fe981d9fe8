import TemplateLexer.Proofs.AgreeingSelectors
import TemplateLexer.Proofs.Masked
/-!
The declarations that an element loses when those of some namespaces are stripped. A declaration is
used by the names at its element and further in that refer to its qualifier, as far as no element
binds the qualifier again. Declarations are told apart only by their qualifiers: one without a
qualifier cannot be asked to stay, and one whose qualifier stands for another namespace somewhere in
the element cannot be asked to go.
-/

set_option autoImplicit false

namespace TemplateLexer

namespace Markup

mutual

/-- A node without declarations. -/
def Node.undeclared : Node → Node
  | .element tag children => .element { tag with declarations := [] } (undeclaredAll children)
  | n => n

def undeclaredAll : List Node → List Node
  | [] => []
  | n :: rest => n.undeclared :: undeclaredAll rest

end

/-- Whether a name at one of some places below some tags refers to a qualifier that is bound above
them: no tag on the way up binds it. -/
def RefersAbove (places : List Place) (above : List Tag) (qualifier : Option String) : Prop :=
  ∃ q ∈ places, q.tag.refersTo qualifier = true
    ∧ ∃ inner, q.tags = inner ++ above ∧ ∀ t ∈ inner, t.declares qualifier = false

namespace Place

/-- Whether a declaration of the element at a place is used: a name of the element or further in
refers to its qualifier, with no other binding of the qualifier in between. -/
def Uses (p : Place) (qualifier : Option String) : Prop :=
  RefersAbove (p :: p.below) p.tags qualifier

/-- The declarations of the element at a place that something refers to, and those of the
qualifiers to keep. -/
def keptDeclarations (keep : List String) (p : Place) : List Declaration :=
  p.tag.declarations.filter fun d => (d.qualifier.map keep.contains).getD false
    || p.tag.refersTo d.qualifier || anyRefersOut d.qualifier p.element.children

end Place

/-- Whether a qualifier stands at some place for a namespace that is not listed. -/
def StandsForOther (uris : List String) (places : List Place) (qualifier : String) : Prop :=
  ∃ r ∈ places, ∃ d ∈ r.bindings, d.qualifier = some qualifier ∧ d.uri ∉ uris

section Scope

variable {a : Address} {above tags : List Tag} {index : Nat} {n : Node} {nodes : List Node}
  {p q : Place} {qualifier : Option String}

theorem suffix_of_mem_placesBelow (h : q ∈ placesBelow a tags index nodes) : tags <:+ q.above := by
  obtain ⟨k, e, b, -, -, hl⟩ := mem_placesBelow_iff.1 h
  exact suffix_of_locate hl

theorem refersAbove_append {xs ys : List Place} : RefersAbove (xs ++ ys) above qualifier ↔
    RefersAbove xs above qualifier ∨ RefersAbove ys above qualifier := by
  simp only [RefersAbove, List.mem_append, or_and_right, exists_or]

theorem refersAbove_below {t : Tag} :
    RefersAbove (placesBelow a (t :: above) index nodes) above qualifier ↔
      t.declares qualifier = false
        ∧ RefersAbove (placesBelow a (t :: above) index nodes) (t :: above) qualifier := by
  constructor
  · rintro ⟨q, hq, href, inner, hinner, hfree⟩
    obtain ⟨way, hway⟩ := suffix_of_mem_placesBelow hq
    have htags : q.tags = (q.tag :: way) ++ (t :: above) := by
      rw [Place.tags, ← hway]
      rfl
    have hlists : inner ++ above = ((q.tag :: way) ++ [t]) ++ above := by
      rw [← hinner, htags, List.append_assoc]
      rfl
    have hsplit : inner = (q.tag :: way) ++ [t] := List.append_cancel_right hlists
    rw [hsplit] at hfree
    exact ⟨hfree t (by simp), q, hq, href, q.tag :: way, htags,
      fun s hs => hfree s (List.mem_append_left _ hs)⟩
  · rintro ⟨ht, q, hq, href, inner, hinner, hfree⟩
    refine ⟨q, hq, href, inner ++ [t], by rw [hinner, List.append_assoc]; rfl, fun s hs => ?_⟩
    rcases List.mem_append.1 hs with hs | hs
    · exact hfree s hs
    · exact List.mem_singleton.1 hs ▸ ht

theorem refersAbove_own {e : Element} : RefersAbove [⟨a, above, e⟩] above qualifier ↔
    e.tag.declares qualifier = false ∧ e.tag.refersTo qualifier = true := by
  constructor
  · rintro ⟨q, hq, href, inner, hinner, hfree⟩
    rw [List.mem_singleton.1 hq] at href hinner
    have hlists : [e.tag] ++ above = inner ++ above := hinner
    have hown : inner = [e.tag] := (List.append_cancel_right hlists).symm
    exact ⟨hfree _ (hown ▸ List.mem_singleton_self _), href⟩
  · rintro ⟨hown, href⟩
    exact ⟨_, List.mem_singleton_self _, href, [e.tag], rfl, List.forall_mem_singleton.2 hown⟩

mutual

theorem refersOut_iff (qualifier : Option String) (a : Address) (above : List Tag) (n : Node) :
    refersOut qualifier n = true ↔ RefersAbove (placesOf a above n) above qualifier := by
  cases n with
  | element tag children =>
    have hinside := anyRefersOut_iff qualifier a (tag :: above) 0 children
    rw [refersOut, placesOf, ← List.singleton_append, refersAbove_append, refersAbove_own,
      refersAbove_below, ← hinside, Bool.and_eq_true, Bool.or_eq_true, Bool.not_eq_true',
      and_or_left]
  | text _ | cdata _ | comment _ | instruction _ _ | reference _ =>
    simp [refersOut, placesOf, RefersAbove]

theorem anyRefersOut_iff (qualifier : Option String) (a : Address) (above : List Tag) (index : Nat)
    (nodes : List Node) : anyRefersOut qualifier nodes = true ↔
      RefersAbove (placesBelow a above index nodes) above qualifier := by
  cases nodes with
  | nil => simp [anyRefersOut, placesBelow, RefersAbove]
  | cons n rest =>
    rw [anyRefersOut, placesBelow, refersAbove_append, Bool.or_eq_true,
      refersOut_iff qualifier (a ++ [index]) above n, anyRefersOut_iff qualifier a above _ rest]

end

theorem Place.uses_iff : p.Uses qualifier ↔
    (p.tag.refersTo qualifier || anyRefersOut qualifier p.element.children) = true := by
  have hown : RefersAbove [p] p.tags qualifier ↔ p.tag.refersTo qualifier = true := by
    constructor
    · rintro ⟨q, hq, href, -⟩
      exact List.mem_singleton.1 hq ▸ href
    · intro href
      exact ⟨p, List.mem_singleton_self p, href, [], rfl, by simp⟩
  have hinside := anyRefersOut_iff qualifier p.address p.tags 0 p.element.children
  rw [Uses, ← List.singleton_append, refersAbove_append, hown, Bool.or_eq_true, hinside, below]

instance : Decidable (p.Uses qualifier) := decidable_of_iff _ Place.uses_iff.symm

end Scope

section Unused

variable (keep : List String)

/-- What is left of the element at a place. -/
structure Place.Thinned (p q : Place) : Prop where
  address : q.address = p.address
  tag : q.tag = { p.tag with declarations := p.keptDeclarations keep }

theorem isCharacters_withoutUnused (n : Node) :
    (withoutUnused keep n).isCharacters = n.isCharacters := by
  cases n <;> simp [withoutUnused, Node.isCharacters]

mutual

/-- The places stay, and each of them loses what nothing refers to. The tags above do not matter:
what a declaration is used for is inside its element. -/
theorem forall₂_withoutUnused (a : Address) (above above' : List Tag) (n : Node) :
    List.Forall₂ (Place.Thinned keep) (placesOf a above n)
      (placesOf a above' (withoutUnused keep n)) := by
  cases n with
  | element tag children =>
    rw [withoutUnused, placesOf, placesOf]
    exact .cons ⟨rfl, rfl⟩ (forall₂_withoutUnusedAll a _ _ 0 children)
  | text _ | cdata _ | comment _ | instruction _ _ | reference _ =>
    simp [withoutUnused, placesOf]

theorem forall₂_withoutUnusedAll (a : Address) (above above' : List Tag) (index : Nat)
    (nodes : List Node) :
    List.Forall₂ (Place.Thinned keep) (placesBelow a above index nodes)
      (placesBelow a above' index (withoutUnusedAll keep nodes)) := by
  cases nodes with
  | nil => exact .nil
  | cons n rest =>
    rw [withoutUnusedAll, placesBelow, placesBelow, isCharacters_withoutUnused]
    exact List.rel_append (forall₂_withoutUnused _ above above' n)
      (forall₂_withoutUnusedAll a above above' _ rest)

end

mutual

theorem undeclared_withoutUnused (n : Node) :
    (withoutUnused keep n).undeclared = n.undeclared := by
  cases n with
  | element tag children =>
    rw [withoutUnused, Node.undeclared, Node.undeclared, undeclaredAll_withoutUnusedAll children]
  | text _ | cdata _ | comment _ | instruction _ _ | reference _ => simp [withoutUnused]

theorem undeclaredAll_withoutUnusedAll (nodes : List Node) :
    undeclaredAll (withoutUnusedAll keep nodes) = undeclaredAll nodes := by
  cases nodes with
  | nil => rfl
  | cons n rest =>
    rw [withoutUnusedAll, undeclaredAll, undeclaredAll, undeclared_withoutUnused n,
      undeclaredAll_withoutUnusedAll rest]

end

end Unused

end Markup

open Markup

namespace Content

variable {uris : List String} {above : List Tag} {e : Element} {f : String} {d : Declaration}
  {p q : Place}

theorem mem_keptQualifiers_iff : f ∈ keptQualifiers uris above e ↔
    StandsForOther uris (placesOf [] above e.node) f := by
  rw [keptQualifiers, List.mem_flatMap]
  refine exists_congr fun r => and_congr_right fun _ => ?_
  rw [List.mem_filterMap]
  refine exists_congr fun d => and_congr_right fun _ => ?_
  rw [List.contains_eq_mem]
  by_cases hd : d.uri ∈ uris <;> simp [hd]

/-- What an element with some places keeps of the declarations at one of them when those of some
namespaces are stripped. -/
structure Stripping (uris : List String) (places : List Place) (p q : Place) : Prop where
  address : q.address = p.address
  tag : q.tag = { p.tag with declarations := q.tag.declarations }
  order : q.tag.declarations.Sublist p.tag.declarations
  gone : ∀ d ∈ p.tag.declarations, d ∉ q.tag.declarations ↔
    ¬p.Uses d.qualifier ∧ ∀ f, d.qualifier = some f → ¬StandsForOther uris places f
  meant : ∀ d, p.tag.Binds d → (d.qualifier = none → d.uri ∈ uris) →
    (∀ f, d.qualifier = some f → d.uri ∈ uris → ¬StandsForOther uris places f) →
    (d ∉ q.tag.declarations ↔ d.uri ∈ uris ∧ ¬p.Uses d.qualifier)

theorem mem_keptDeclarations_iff (hd : d ∈ p.tag.declarations) :
    d ∈ p.keptDeclarations (keptQualifiers uris above e) ↔ p.Uses d.qualifier
      ∨ ∃ f, d.qualifier = some f ∧ StandsForOther uris (placesOf [] above e.node) f := by
  have hkeep : (d.qualifier.map (keptQualifiers uris above e).contains).getD false = true ↔
      ∃ f, d.qualifier = some f ∧ StandsForOther uris (placesOf [] above e.node) f := by
    cases d.qualifier with
    | none => simp
    | some f => simp [mem_keptQualifiers_iff]
  rw [Place.keptDeclarations, List.mem_filter, and_iff_right hd, Bool.or_assoc, Bool.or_eq_true,
    hkeep, ← Place.uses_iff, or_comm]

theorem standsForOther_of_binds (hp : p ∈ placesOf [] above e.node) (hbinds : p.tag.Binds d)
    (hf : d.qualifier = some f) (hd : d.uri ∉ uris) :
    StandsForOther uris (placesOf [] above e.node) f :=
  ⟨p, hp, d, mem_bindings_of_binds hbinds p.above, hf, hd⟩

theorem stripping_of_thinned (hp : p ∈ placesOf [] above e.node)
    (h : p.Thinned (keptQualifiers uris above e) q) :
    Stripping uris (placesOf [] above e.node) p q := by
  have hkept : q.tag.declarations = p.keptDeclarations (keptQualifiers uris above e) := by
    rw [h.tag]
  have hgone : ∀ d ∈ p.tag.declarations, d ∉ q.tag.declarations ↔ ¬p.Uses d.qualifier
      ∧ ∀ f, d.qualifier = some f → ¬StandsForOther uris (placesOf [] above e.node) f := by
    intro d hd
    rw [hkept, mem_keptDeclarations_iff hd, not_or]
    simp only [not_exists, not_and]
  refine ⟨h.address, by rw [hkept]; exact h.tag, ?_, hgone, ?_⟩
  · rw [hkept]
    exact List.filter_sublist
  · intro d hbinds hdefault hother
    rw [hgone d (List.mem_of_find?_eq_some hbinds), and_comm (a := d.uri ∈ uris)]
    refine and_congr_right fun _ => ⟨fun hnot => ?_, fun hd f hf => hother f hf hd⟩
    cases hf : d.qualifier with
    | none => exact hdefault hf
    | some f => exact not_not.1 fun hd => hnot f hf (standsForOther_of_binds hp hbinds hf hd)

/-- An element loses nothing but declarations, and a declaration goes iff nothing in its scope uses
it and its qualifier, if it has one, stands nowhere in the element for a namespace that is not
listed. So declarations that are used stay; of the unused ones, those of listed namespaces go and
the others stay, unless the qualifier of a listed one stands for another namespace somewhere, or one
that is not listed has no qualifier. -/
theorem stripped_declarations (uris : List String) (above : List Tag) (e : Element) :
    (stripped uris above e).node.undeclared = e.node.undeclared
      ∧ List.Forall₂ (Stripping uris (placesOf [] above e.node)) (placesOf [] above e.node)
        (placesOf [] above (stripped uris above e).node) := by
  rw [node_stripped]
  refine ⟨undeclared_withoutUnused _ _, ?_⟩
  have hthin := forall₂_withoutUnused (keptQualifiers uris above e) [] above above e.node
  refine List.forall₂_iff_get.2 ⟨hthin.length_eq, fun i hi hi' => ?_⟩
  exact stripping_of_thinned (List.get_mem _ _) (List.forall₂_iff_get.1 hthin |>.2 i hi hi')

/-- An element `x:a` that binds `x`, and names without a qualifier that it does not have. -/
def defaulted : Element :=
  ⟨⟨⟨some "x", some "urn:x", "a"⟩, [⟨some "x", "urn:x"⟩, ⟨none, "urn:d"⟩], [], 1⟩, []⟩

/-- An element that binds `p`, with an element inside it that binds `p` again; none uses it. -/
def rebound : Element :=
  ⟨⟨.bare "r", [⟨some "p", "urn:h"⟩], [], 1⟩,
    [.element ⟨.bare "b", [⟨some "p", "urn:o"⟩], [], 1⟩ []]⟩

/-- An unused declaration without a qualifier goes though its namespace is not listed; an unused
one of a listed namespace stays where its qualifier stands for another namespace further in. -/
theorem stripped_declarations_unused :
    (⟨none, "urn:d"⟩ ∈ defaulted.tag.declarations ∧ "urn:d" ∉ ["urn:x"]
      ∧ ⟨none, "urn:d"⟩ ∉ (stripped ["urn:x"] [] defaulted).tag.declarations)
    ∧ "urn:h" ∈ ["urn:h"] ∧ ¬(⟨[], [], rebound⟩ : Place).Uses (some "p")
      ∧ ⟨some "p", "urn:h"⟩ ∈ (stripped ["urn:h"] [] rebound).tag.declarations := by
  decide

end Content

end TemplateLexer
