import TemplateLexer.Markup.Scope
/-!
Places of elements in a document. A place knows the address and the tags around it; the places of a
tree are listed in document order.
-/

set_option autoImplicit false

namespace TemplateLexer.Markup

/-- An element where it stands; the tags above it are listed innermost first. -/
structure Place where
  address : Address
  above : List Tag
  element : Element
  deriving Repr

namespace Place

def tag (p : Place) : Tag := p.element.tag

def tags (p : Place) : List Tag := p.element.tag :: p.above

def depth (p : Place) : Nat := p.above.length

def bindings (p : Place) : List Declaration := Markup.bindings p.tags

end Place

mutual

def placesOf (address : Address) (above : List Tag) : Node → List Place
  | .element tag children =>
    ⟨address, above, ⟨tag, children⟩⟩ :: placesBelow address (tag :: above) 0 children
  | _ => []

/-- The places in nodes inside one element; `index` counts the children before them. -/
def placesBelow (address : Address) (above : List Tag) (index : Nat) : List Node → List Place
  | [] => []
  | n :: rest =>
    placesOf (address ++ [index]) above n
      ++ placesBelow address above (if n.isCharacters then index else index + 1) rest

end

def Element.places (root : Element) : List Place := placesOf [] [] root.node

def Place.below (p : Place) : List Place := placesBelow p.address p.tags 0 p.element.children

namespace Element

def locate (above : List Tag) (e : Element) : Address → Option (List Tag × Element)
  | [] => some (above, e)
  | i :: rest =>
    match (items e.children)[i]? with
    | some (.element tag children) => locate (e.tag :: above) ⟨tag, children⟩ rest
    | _ => none

end Element

end TemplateLexer.Markup
