import TemplateLexer.Content.Directive
import TemplateLexer.Selection.Sites
/-!
The markup that a node token carries: without directives, and outside shielding elements without the
declarations of helper namespaces that nothing uses any more.
-/

set_option autoImplicit false

namespace TemplateLexer

open Markup

namespace Content

def keptQualifiers (uris : List String) (above : List Tag) (e : Element) : List String :=
  (placesOf [] above e.node).flatMap fun p =>
    p.bindings.filterMap fun d => if uris.contains d.uri then none else d.qualifier

/-- An element without the unused declarations of some namespaces. -/
def stripped (uris : List String) (above : List Tag) (e : Element) : Element :=
  match withoutUnused (keptQualifiers uris above e) e.node with
  | .element tag children => ⟨tag, children⟩
  | _ => e

/-- The markup of a node: only what is inside it if it is a helper. -/
def nodeMarkup (s : Selector) (m : Matcher) (p : Place) : String :=
  let copy := (p.element.detached p.above).withoutDirectives m
  let copy := if s.policy.isRaw p.tag then copy else stripped s.uris [] copy
  if p.tag.name.isIn s.uris then copy.printContent else copy.print

end Content

end TemplateLexer
