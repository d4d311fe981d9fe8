import TemplateLexer.Lexing.Work
/-!
How nodes are related. When a node is worked on, the nodes inside it and after it have left
placeholders, and those before it are still in place.
-/

set_option autoImplicit false

namespace TemplateLexer

open Markup

namespace Working

/-- The elements beside an element, nearest first, with their indexes: those before it or those
after it. -/
def siblings (forward : Bool) (index : Nat) (children : List Node) : List (Nat × Tag) :=
  let indexed := (items children).zipIdx
  let side := if forward then indexed.drop (index + 1) else (indexed.take index).reverse
  side.filterMap fun (n, i) => n.element?.map fun e => (i, e.tag)

def sibling? (m : Marker) (forward : Bool) : Working (Option (Nat × Tag)) := do
  match m.address.getLast? with
  | none => return none
  | some index =>
    let parent ← placeAt m.address.dropLast
    return (siblings forward index parent.element.children).head?

def resolve (p : Pass) (m : Marker) (placeholder : Tag) : Working String := do
  let id := placeholder.id?.getD ""
  if (← get).done.contains id then return id
  else fail (.unresolvedPlaceholder id (p.spot m.path (some m.line)))

def previous? (p : Pass) (m : Marker) : Working (Option String) := do
  if m.ancestor.isNone then return none
  match ← sibling? m false with
  | none => return none
  | some (index, tag) =>
    if p.policy.isPlaceholder tag then return tag.id?
    else return (p.markerAt? (m.address.dropLast ++ [index])).map (·.id)

def next? (p : Pass) (m : Marker) : Working (Option String) := do
  if m.ancestor.isNone then return none
  match ← sibling? m true with
  | none => return none
  | some (_, tag) =>
    if p.policy.isPlaceholder tag then return some (← resolve p m tag) else return none

def children (p : Pass) (m : Marker) : Working (List String) := do
  let selections ← ofExcept p.policy.placeholders
  let place ← placeAt m.address
  let inside := place :: place.below
  let found := inside.filter fun q => selections.any (·.holds q.tag.name)
  found.mapM fun q => resolve p m q.tag

end Working

end TemplateLexer
