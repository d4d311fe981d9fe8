import TemplateLexer.Json.Basic
import TemplateLexer.Lexing.Expressions
/-!
Tokens of helpers. An attribute helper is taken off its element; an element helper stays until its
node leaves a placeholder.
-/

set_option autoImplicit false

namespace TemplateLexer

open Markup

namespace Working

def dropAttribute (a : Address) (n : Name) : Working Unit :=
  modify fun w =>
    { w with
      root := w.root.modifyTag (fun t =>
        { t with attributes := t.attributes.filter fun b => !b.name.isSame n }) a }

def attributeHelper (p : Pass) (m : Marker) (place : Place) (a : Attribute) : Working Unit := do
  let value := a.plainValue
  if hasDelimiter value.toList then emit (← attributeSite p place a)
  let path := p.attributePath place.address place.tags a.name
  emit ⟨.attributeHelper, m.line,
    .helper ⟨p.digest.hex path, path, a.name.base, a.name.uri.getD "", [], some value⟩⟩
  dropAttribute m.address a.name

def attributeHelpers (p : Pass) (m : Marker) : Working Unit := do
  let place ← placeAt m.address
  (p.selector.helperAttributes place.tag).reverse.forM (attributeHelper p m place)

/-- The attributes of an element helper that are no helpers themselves, by the names that an author
writes. -/
def plainAttributes (uris : List String) (tags : List Tag) (t : Tag) : List (String × String) :=
  (t.attributes.filter fun a => !a.name.isIn uris).foldl (fun entries a =>
    putKey (qualifiedName tags a.name.uri a.name.base) a.plainValue entries) []

def elementHelper (p : Pass) (m : Marker) : Working Unit := do
  let place ← placeAt m.address
  if place.tag.name.isIn p.selector.uris then
    emitSites p ((p.selector.elementHelperExpressions place.tag).map (.attributeOf place))
    emit ⟨.elementHelper, m.line,
      .helper ⟨m.id, m.path, place.tag.name.base, place.tag.name.uri.getD "",
        plainAttributes p.selector.uris place.tags place.tag, none⟩⟩

end Working

end TemplateLexer
