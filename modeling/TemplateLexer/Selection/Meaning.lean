import TemplateLexer.Markup.Place
import TemplateLexer.Selection.Expr
/-!
What expressions in the language of paths mean at a point of a document. The points of a document
are the document itself, its elements, their attributes, and all other nodes; a section is a text of
its own here. A path selects points, and those that are selected are listed in document order. Where
a text or a truth value is needed instead, a set of points gives the text of the first one, or
whether there is one.
-/

set_option autoImplicit false

namespace TemplateLexer.Query

open Markup

/-- A point of a document. Attributes are told apart by their index in the tag of their owner, and
other nodes by their index among all that is right inside it. -/
inductive Point where
  | document
  | element (p : Place)
  | attr (owner : Place) (index : Nat) (a : Attribute)
  | leaf (owner : Place) (index : Nat) (n : Node)
  deriving Repr

def sitePoints (p : Place) : List Point :=
  .element p :: p.tag.attributes.zipIdx.map fun x => .attr p x.2 x.1

mutual

def pointsOf (address : Address) (above : List Tag) : Node → List Point
  | .element tag children =>
    let p : Place := ⟨address, above, ⟨tag, children⟩⟩
    sitePoints p ++ pointsBelow p 0 0 children
  | _ => []

/-- The points in nodes right inside an element; `index` counts the nodes before them, and `item`
those that are no text. -/
def pointsBelow (owner : Place) (index item : Nat) : List Node → List Point
  | [] => []
  | n :: rest =>
    (if n.isElement then pointsOf (owner.address ++ [item]) owner.tags n else [.leaf owner index n])
      ++ pointsBelow owner (index + 1) (if n.isCharacters then item else item + 1) rest

end

def points (root : Element) : List Point := .document :: pointsOf [] [] root.node

namespace Point

def isElement : Point → Bool
  | element _ => true
  | _ => false

def isAttribute : Point → Bool
  | attr _ _ _ => true
  | _ => false

def isText : Point → Bool
  | leaf _ _ n => n.isCharacters
  | _ => false

def isSame : Point → Point → Bool
  | document, document => true
  | element p, element q => p.address == q.address
  | attr p i _, attr q j _ | leaf p i _, leaf q j _ => p.address == q.address && i == j
  | _, _ => false

def isParentOf : Point → Point → Bool
  | document, element p => p.address.isEmpty
  | element p, element q => !q.address.isEmpty && q.address.dropLast == p.address
  | element p, attr q _ _ | element p, leaf q _ _ => p.address == q.address
  | _, _ => false

def encloses : Point → Point → Bool
  | document, q => !document.isSame q
  | element p, element q => p.address.isPrefixOf q.address && p.address != q.address
  | element p, attr q _ _ | element p, leaf q _ _ => p.address.isPrefixOf q.address
  | _, _ => false

def uri : Point → String
  | element p => p.tag.name.uri.getD ""
  | attr _ _ a => a.name.uri.getD ""
  | _ => ""

def base : Point → String
  | element p => p.tag.name.base
  | attr _ _ a => a.name.base
  | leaf _ _ (.instruction target _) => target
  | _ => ""

end Point

def Axis.leads (p q : Point) : Axis → Bool
  | child => p.isParentOf q && !q.isAttribute
  | attributes => p.isParentOf q && q.isAttribute
  | parent => q.isParentOf p
  | ancestor => q.encloses p
  | descendant => p.encloses q && !q.isAttribute
  | descendantOrSelf => p.isSame q || (p.encloses q && !q.isAttribute)

/-- On the axis of attributes, any attribute has a name to be taken; elsewhere elements do. -/
def NodeTest.takes (axis : Axis) (p : Point) : NodeTest → Bool
  | any => if axis == .attributes then p.isAttribute else p.isElement
  | text => p.isText

/-- Where expressions are read: a document, and what references stand for in it. -/
structure Scene where
  root : Element
  expand : String → String

inductive Value where
  | set (selected : Point → Bool)
  | text (s : String)
  | truth (b : Bool)

mutual

def textIn (expand : String → String) : Node → String
  | .element _ children => textInAll expand children
  | .text s | .cdata s => s
  | .reference name => expand name
  | .comment _ | .instruction _ _ => ""

def textInAll (expand : String → String) : List Node → String
  | [] => ""
  | n :: rest => textIn expand n ++ textInAll expand rest

end

namespace Scene

variable (s : Scene)

def select (selected : Point → Bool) : List Point := (points s.root).filter selected

def textAt : Point → String
  | .document => textIn s.expand s.root.node
  | .element p => textIn s.expand p.element.node
  | .attr _ _ a => a.valueWith s.expand
  | .leaf _ _ (.comment body) => body
  | .leaf _ _ (.instruction _ data) => data.getD ""
  | .leaf _ _ n => textIn s.expand n

def textOf : Value → String
  | .set selected => ((s.select selected).head?.map s.textAt).getD ""
  | .text t => t
  | .truth b => if b then "true" else "false"

def truthOf : Value → Bool
  | .set selected => !(s.select selected).isEmpty
  | .text t => !t.isEmpty
  | .truth b => b

def areEqual : Value → Value → Bool
  | .truth b, v | v, .truth b => b == s.truthOf v
  | .set p, .set q => (s.select p).any fun x => (s.select q).any fun y => s.textAt x == s.textAt y
  | .set p, .text t | .text t, .set p => (s.select p).any fun x => s.textAt x == t
  | .text t, .text u => t == u

end Scene

def Value.has (p : Point) : Value → Bool
  | set selected => selected p
  | _ => false

def holdsPart (part : List Char) : List Char → Bool
  | [] => part.isEmpty
  | c :: cs => part.isPrefixOf (c :: cs) || holdsPart part cs

/-- The point of which a function tells something: the one where it is called, or the first one it
is given. -/
def Scene.subject (s : Scene) (context : Point) : List Value → Option Point
  | .set selected :: _ => (s.select selected).head?
  | _ => some context

def Function.apply (s : Scene) (context : Point) (args : List Value) : Function → Value
  | concat => .text (String.join (args.map s.textOf))
  | contains =>
    match args with
    | [whole, part] => .truth (holdsPart (s.textOf part).toList (s.textOf whole).toList)
    | _ => .truth false
  | not => .truth !(args.any s.truthOf)
  | namespaceUri => .text (((s.subject context args).map Point.uri).getD "")
  | localName => .text (((s.subject context args).map Point.base).getD "")

def Operator.apply (s : Scene) (left right : Value) : Operator → Value
  | or => .truth (s.truthOf left || s.truthOf right)
  | and => .truth (s.truthOf left && s.truthOf right)
  | equals => .truth (s.areEqual left right)
  | union => .set fun p => left.has p || right.has p

def Start.holds (context p : Point) : Start → Bool
  | here => context.isSame p
  | document => Point.document.isSame p
  | anywhere => Axis.descendantOrSelf.leads .document p

def Scene.stepFrom (s : Scene) (selected : Point → Bool) (axis : Axis) (test : NodeTest)
    (p : Point) : Bool :=
  test.takes axis p && (s.select selected).any fun q => axis.leads q p

def Scene.around (s : Scene) (selected : Point → Bool) (p : Point) : Bool :=
  (s.select selected).any fun q => Axis.descendantOrSelf.leads q p

mutual

def Expr.value (s : Scene) (context : Point) : Expr → Value
  | .literal t => .text t
  | .call f args => f.apply s context (valuesOf s context args)
  | .group e => e.value s context
  | .binary op left right => op.apply s (left.value s context) (right.value s context)
  | .here => .set context.isSame
  | .first start axis test => .set (s.stepFrom (start.holds context) axis test)
  | .next path far axis test =>
    let selected (p : Point) := (path.value s context).has p
    .set (s.stepFrom (if far then s.around selected else selected) axis test)
  | .filtered path predicate =>
    .set fun p => (path.value s context).has p && s.truthOf (predicate.value s p)

def valuesOf (s : Scene) (context : Point) : List Expr → List Value
  | [] => []
  | e :: rest => e.value s context :: valuesOf s context rest

end

/-- The points that a query selects when it is read at a point, in document order, if it is a query
for points. -/
def Scene.answers? (s : Scene) (context : Point) (text : String) : Option (List Point) :=
  (read? text).bind fun e =>
    match e.value s context with
    | .set selected => some (s.select selected)
    | _ => none

end TemplateLexer.Query
