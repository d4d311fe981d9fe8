/-!
Names in markup. A name has a base, the namespace it belongs to, and the qualifier that stands for
the namespace where the name is written. Declarations bind qualifiers to namespaces; the one without
a qualifier binds element names that have none.
-/

set_option autoImplicit false

namespace TemplateLexer.Markup

structure Name where
  qualifier : Option String
  uri : Option String
  base : String
  deriving DecidableEq, Repr

namespace Name

/-- A name in no namespace. -/
def bare (base : String) : Name := ⟨none, none, base⟩

def written (n : Name) : String :=
  match n.qualifier with
  | some q => q ++ ":" ++ n.base
  | none => n.base

def expanded (n : Name) : String :=
  match n.uri with
  | some u => "\x7b" ++ u ++ "\x7d" ++ n.base
  | none => n.base

/-- Whether two names have one namespace and base; qualifiers only stand for namespaces. -/
def isSame (n m : Name) : Bool := n.uri == m.uri && n.base == m.base

/-- Whether the namespace is one of those listed; a name in no namespace belongs to none. -/
def isIn (uris : List String) (n : Name) : Bool :=
  match n.uri with
  | some u => uris.contains u
  | none => false

/-- The same with the empty text for no namespace. -/
def isInOrEmpty (uris : List String) (n : Name) : Bool := uris.contains (n.uri.getD "")

end Name

def xmlUri : String := "http://www.w3.org/XML/1998/namespace"

def xmlnsUri : String := "http://www.w3.org/2000/xmlns/"

/-- Binds a qualifier, or names without one, to a namespace; the empty one takes a binding back. -/
structure Declaration where
  qualifier : Option String
  uri : String
  deriving DecidableEq, Repr

def splitExpanded (s : String) : Option (Option String × String) :=
  match s.toList with
  | '\x7b' :: cs =>
    match cs.dropWhile (· != '\x7d') with
    | _ :: base => some (some (String.ofList (cs.takeWhile (· != '\x7d'))), String.ofList base)
    | [] => none
  | _ => some (none, s)

/-- A part of the value of an attribute. -/
inductive Chunk where
  | text (s : String)
  | reference (name : String)
  deriving DecidableEq, Repr

structure Attribute where
  name : Name
  value : List Chunk
  deriving DecidableEq, Repr

namespace Attribute

def valueWith (expand : String → String) (a : Attribute) : String :=
  String.join (a.value.map fun
    | .text s => s
    | .reference name => expand name)

/-- The value where references stand for nothing, as in a copy, whose entities have no content. -/
def plainValue (a : Attribute) : String := a.valueWith fun _ => ""

end Attribute

/-- The start of an element: its name, the declarations and attributes that it carries, and the
line on which it ends. Elements made during a pass have no line. -/
structure Tag where
  name : Name
  declarations : List Declaration
  attributes : List Attribute
  line : Nat
  deriving DecidableEq, Repr

namespace Tag

/-- Whether names in this tag refer to a qualifier; attributes have one always. -/
def refersTo (qualifier : Option String) (t : Tag) : Bool :=
  (t.name.uri.isSome && t.name.qualifier == qualifier)
    || t.attributes.any fun a => a.name.uri.isSome && a.name.qualifier == qualifier

def attribute? (expanded : String) (t : Tag) : Option Attribute :=
  t.attributes.find? fun a => a.name.expanded == expanded

end Tag

end TemplateLexer.Markup
