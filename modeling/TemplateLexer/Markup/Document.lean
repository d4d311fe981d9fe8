import TemplateLexer.Markup.Hypertext
import TemplateLexer.Markup.Place

set_option autoImplicit false

namespace TemplateLexer.Markup

structure Document where
  version : String
  encoding : String
  /-- Comments and instructions before the document type. -/
  leading : List Node
  doctype : Option Doctype
  /-- Comments and instructions before the root, as far back as the document type. -/
  before : List Node
  root : Element
  after : List Node

namespace Document

def items (d : Document) : List DoctypeItem := (d.doctype.map (·.items)).getD []

def isHypertext (d : Document) : Bool := (d.doctype.map Hypertext.isTypeOf).getD false

def expand (d : Document) (name : String) : String := expansion d.items (d.items.length + 1) name

def settled (d : Document) : Document :=
  if d.isHypertext then
    match Hypertext.fill d.items d.root.node with
    | .element tag children => { d with root := ⟨tag, children⟩ }
    | _ => d
  else d

/-- A node of the document; the tags above it are known if the root is written with it. -/
def printNode (d : Document) (above : Option (List Tag)) (n : Node) : List Char :=
  if d.isHypertext then Hypertext.print d.items above (Hypertext.fill d.items n) else n.print

/-- The document without its declaration. The document type is written if it names the root. -/
def print (d : Document) : String :=
  let doctype := match d.doctype with
    | some t => if t.name == d.root.tag.name.base then t.print else ""
    | none => ""
  String.ofList (printAll d.leading) ++ doctype
    ++ String.ofList (printAll d.before ++ d.printNode (some []) d.root.node ++ printAll d.after)

end Document

end TemplateLexer.Markup
