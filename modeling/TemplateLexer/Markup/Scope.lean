import TemplateLexer.Markup.Node
/-!
What qualifiers stand for. The tags around a place, innermost first, bind qualifiers; the binding
nearest to the place holds. An element taken out of its document carries the bindings along that it
needs.
-/

set_option autoImplicit false

namespace TemplateLexer.Markup

def extend : (bound new : List Declaration) → List Declaration
  | bound, [] => bound
  | bound, d :: rest =>
    if bound.any (·.qualifier == d.qualifier) then extend bound rest
    else extend (bound ++ [d]) rest

/-- The bindings in force inside the innermost of the tags: its own first, then those of the tags
around it, nearest first. -/
def bindings (tags : List Tag) : List Declaration :=
  tags.foldl (fun bound t => extend bound t.declarations) []

def binding? (qualifier : Option String) (tags : List Tag) : Option Declaration :=
  (bindings tags).find? (·.qualifier == qualifier)

theorem extend_append (bound xs ys : List Declaration) :
    extend bound (xs ++ ys) = extend (extend bound xs) ys := by
  induction xs generalizing bound with
  | nil => rfl
  | cons d rest ih =>
    rw [List.cons_append, extend, extend, ih, ih]
    split <;> rfl

theorem bindings_eq_extend (tags : List Tag) :
    bindings tags = extend [] (tags.flatMap (·.declarations)) := by
  have hfrom : ∀ bound, tags.foldl (fun bound t => extend bound t.declarations) bound
      = extend bound (tags.flatMap (·.declarations)) := by
    induction tags with
    | nil => exact fun bound => rfl
    | cons t tags ih =>
      intro bound
      rw [List.foldl_cons, ih, List.flatMap_cons, extend_append]
  exact hfrom []

namespace Tag

def declares (qualifier : Option String) (t : Tag) : Bool :=
  t.declarations.any (·.qualifier == qualifier)

/-- The qualifiers that names of a tag refer to, the one of the element first. The qualifier of the
markup language itself needs no declaration. -/
def uses (t : Tag) : List (Option String) :=
  let used (n : Name) : List (Option String) :=
    if n.uri.isSome && n.qualifier != some "xml" then [n.qualifier] else []
  used t.name ++ t.attributes.flatMap fun a => used a.name

end Tag

mutual

/-- The qualifiers that are used in a node but bound outside it, in document order; `inner` are
those bound further out inside the part that is looked at. -/
def freeUses (inner : List (Option String)) : Node → List (Option String)
  | .element tag children =>
    let inner := inner ++ tag.declarations.map (·.qualifier)
    tag.uses.filter (fun q => !inner.contains q) ++ freeUsesAll inner children
  | _ => []

def freeUsesAll (inner : List (Option String)) : List Node → List (Option String)
  | [] => []
  | n :: rest => freeUses inner n ++ freeUsesAll inner rest

end

def bindingsOf (used : List (Option String)) (tags : List Tag) : List Declaration :=
  used.filterMap fun q => binding? q tags

/-- A copy of an element on its own: what it uses but leaves to the tags above it to bind, the copy
binds after its own declarations. -/
def Element.detached (above : List Tag) (e : Element) : Element :=
  let used := bindingsOf (freeUses [] e.node) above
  { e with tag := { e.tag with declarations := extend e.tag.declarations used } }

/-- An element as it is printed below some tags: it binds all that is in force, its own declarations
first, then those of the qualifiers that its tag uses. -/
def Element.alone (above : List Tag) (e : Element) : Element :=
  let own := extend e.tag.declarations (bindingsOf e.tag.uses above)
  { e with tag := { e.tag with declarations := extend own (bindings above) } }

mutual

def refersOut (qualifier : Option String) : Node → Bool
  | .element tag children =>
    !tag.declares qualifier && (tag.refersTo qualifier || anyRefersOut qualifier children)
  | _ => false

def anyRefersOut (qualifier : Option String) : List Node → Bool
  | [] => false
  | n :: rest => refersOut qualifier n || anyRefersOut qualifier rest

end

mutual

/-- Removes declarations that nothing refers to, unless their qualifier is to be kept. -/
def withoutUnused (keep : List String) : Node → Node
  | .element tag children =>
    let needed (d : Declaration) : Bool :=
      (d.qualifier.map keep.contains).getD false
        || tag.refersTo d.qualifier || anyRefersOut d.qualifier children
    .element { tag with declarations := tag.declarations.filter needed }
      (withoutUnusedAll keep children)
  | n => n

def withoutUnusedAll (keep : List String) : List Node → List Node
  | [] => []
  | n :: rest => withoutUnused keep n :: withoutUnusedAll keep rest

end

def customaryQualifier : String → Option String
  | "http://www.w3.org/1999/xhtml" => some "html"
  | "http://www.w3.org/1999/XSL/Transform" => some "xsl"
  | "http://www.w3.org/1999/02/22-rdf-syntax-ns#" => some "rdf"
  | "http://schemas.xmlsoap.org/wsdl/" => some "wsdl"
  | "http://www.w3.org/2001/XMLSchema" => some "xs"
  | "http://www.w3.org/2001/XMLSchema-instance" => some "xsi"
  | "http://purl.org/dc/elements/1.1/" => some "dc"
  | _ => none

/-- A declaration that binds a namespace and is in force, searched from the innermost tag outward.
A tag further out offers also the binding of its own name, after its declarations. -/
def boundTo? (uri : String) (tags : List Tag) : Option Declaration :=
  let inForce := bindings tags
  let offered (t : Tag) : List Declaration := t.declarations.filter (·.uri == uri)
  let ofName (t : Tag) : List Declaration :=
    if t.name.uri == some uri then [⟨t.name.qualifier, uri⟩] else []
  let candidates := match tags with
    | [] => []
    | t :: outer => offered t ++ outer.flatMap fun t => offered t ++ ofName t
  candidates.find? inForce.contains

/-- The name that an element of a namespace gets below some tags, and the declaration that it has
to carry when no binding of the namespace is in force. -/
def nameBelow (tags : List Tag) (uri : Option String) (base : String) : Name × List Declaration :=
  match uri with
  | none => (.bare base, [])
  | some u =>
    if u = xmlUri then (⟨some "xml", some u, base⟩, [])
    else
      match boundTo? u tags with
      | some d => (⟨d.qualifier, some u, base⟩, [])
      | none =>
        let q := (customaryQualifier u).getD "ns0"
        (⟨some q, some u, base⟩, [⟨some q, u⟩])

end TemplateLexer.Markup
