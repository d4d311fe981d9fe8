import TemplateLexer.Expression.Run
import TemplateLexer.Json.Display
import TemplateLexer.Markup.Place
import TemplateLexer.Policy
/-!
Which elements of a document are nodes, and which expression sites a node owns. Nothing inside a
shielding element is selected; everything is listed in document order.
-/

set_option autoImplicit false

namespace TemplateLexer

open Markup

namespace Policy

def shields (p : Policy) (t : Tag) : Bool :=
  t.name.uri.getD "" == p.rawUri.bare && t.name.base == p.rawBase.bare

def isRaw (p : Policy) (t : Tag) : Bool :=
  t.name.expanded == (⟨none, some p.rawUri.bare, p.rawBase.bare⟩ : Name).expanded

end Policy

/-- Where an expression may be: in an attribute or in the content of an element. -/
inductive Site where
  | attributeOf (owner : Place) (value : Attribute)
  | contentOf (owner : Place)
  deriving Repr

/-- What selections look at: the namespaces of helpers, the policy, and what references in
attribute values stand for. -/
structure Selector where
  uris : List String
  policy : Policy
  expand : String → String

namespace Selector

def exposed (s : Selector) (above : List Tag) : Bool := !above.any s.policy.shields

def holdsDelimiter (s : Selector) (a : Attribute) : Bool :=
  hasDelimiter (a.valueWith s.expand).toList

def isMarked (s : Selector) (p : Place) : Bool :=
  s.exposed p.above
    && (p.tag.name.isInOrEmpty s.uris || p.tag.attributes.any (·.name.isInOrEmpty s.uris))

/-- The nodes of a document; the root is always one. -/
def nodes (s : Selector) (root : Element) : List Place :=
  root.places.filter fun p => p.address.isEmpty || s.isMarked p

def helperAttributes (s : Selector) (t : Tag) : List Attribute :=
  t.attributes.filter (·.name.isInOrEmpty s.uris)

def elementHelperExpressions (s : Selector) (t : Tag) : List Attribute :=
  t.attributes.filter fun a => !a.name.isInOrEmpty s.uris && s.holdsDelimiter a

def hasText (e : Element) : Bool :=
  e.children.any fun n => n.isCharacters && hasDelimiter n.characters.toList

def sitesAt (s : Selector) (withAttributes : Bool) (p : Place) : List Site :=
  if s.exposed p.tags then
    (if hasText p.element then [.contentOf p] else [])
      ++ if withAttributes then
          (p.tag.attributes.filter s.holdsDelimiter).map (.attributeOf p)
        else []
  else []

/-- The sites that the element at a place owns, its own attributes only if it is no helper. -/
def nodeExpressions (s : Selector) (p : Place) : List Site :=
  s.sitesAt (!p.tag.name.isInOrEmpty s.uris) p ++ p.below.flatMap (s.sitesAt true)

def isHelperNamespace (s : Selector) (uri : Option String) : Bool :=
  match uri with
  | some u => s.uris.contains u
  | none => false

end Selector

end TemplateLexer
