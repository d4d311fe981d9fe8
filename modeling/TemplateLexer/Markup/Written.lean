import TemplateLexer.Markup.Chars
import TemplateLexer.Markup.Scope
import TemplateLexer.Markup.Uri
/-!
Names of elements given as texts, with the namespace in braces: which elements such a text selects,
and which element it makes.
-/

set_option autoImplicit false

namespace TemplateLexer.Markup

/-- What a written name selects: elements of one namespace or of any, and of one base or any. -/
structure Selection where
  uri : Option String
  base : Option String
  deriving DecidableEq, Repr

namespace Selection

/-- A star stands for any namespace or base; a name without braces selects no namespace. A name
without a base, with an open brace, or with a character that no document has, is no name. -/
def read? (s : String) : Option Selection :=
  if s == "*" || s == "\x7b*\x7d*" then some ⟨none, none⟩
  else if !s.toList.all fun c => isChar c.toNat then none
  else
    match splitExpanded s with
    | none => none
    | some (uri, base) =>
      if base.isEmpty then none
      else
        let uri := uri.getD ""
        some ⟨if uri == "*" then none else some uri, if base == "*" then none else some base⟩

def holds (s : Selection) (n : Name) : Bool :=
  (s.uri.map (· == n.uri.getD "")).getD true && (s.base.map (· == n.base)).getD true

end Selection

def newName? (s : String) : Option (Option String × String) :=
  match splitExpanded s with
  | none => none
  | some (uri, base) =>
    let uri := if uri == some "" then none else uri
    if isPart base.toList && (uri.map Uri.isReference).getD true then some (uri, base) else none

def newElement? (above : List Tag) (s : String) (attributes : List (String × String)) :
    Option Element :=
  (newName? s).map fun (uri, base) =>
    let (name, declarations) := nameBelow above uri base
    ⟨⟨name, declarations, attributes.map fun (k, v) => ⟨.bare k, [.text v]⟩, 0⟩, []⟩

def Element.appended (e : Element) (s : String) : Option Element :=
  (newElement? [e.tag] s []).map fun child =>
    { e with children := e.children ++ [child.node] }

/-- The namespace and base that an expanded name is taken apart into: it ends the namespace at the
first brace, which may be one of the namespace itself. -/
def cutAtBrace (uri base : String) : String × String :=
  match uri.toList.dropWhile (· != '\x7d') with
  | [] => (uri, base)
  | _ :: rest =>
    (String.ofList (uri.toList.takeWhile (· != '\x7d')),
      String.ofList (rest ++ '\x7d' :: base.toList))

/-- The name of an attribute of an element as an author writes it: with the first qualifier in
force that stands for its namespace. -/
def qualifiedName (tags : List Tag) (uri : Option String) (base : String) : String :=
  match uri with
  | none => base
  | some u =>
    let (u, base) := cutAtBrace u base
    if u == xmlUri then "xml:" ++ base
    else
      match (bindings tags).find? fun d => d.uri == u && (d.qualifier.getD "") != "" with
      | some ⟨some q, _⟩ => q ++ ":" ++ base
      | _ => base

end TemplateLexer.Markup
