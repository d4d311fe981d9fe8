import TemplateLexer.Markup.Reference
/-!
The written form of documents whose document type is one of XHTML, so that readers of HTML take it:
only the elements that are always empty are written as one tag, attributes that are either there or
not have their name as value, and a document tells its encoding. Attributes that both kinds of
readers need under names of their own are written twice.
-/

set_option autoImplicit false

namespace TemplateLexer.Markup

namespace Hypertext

def publicIds : List String :=
  ["-//W3C//DTD XHTML 1.0 Strict//EN", "-//W3C//DTD XHTML 1.0 Frameset//EN",
    "-//W3C//DTD XHTML 1.0 Transitional//EN"]

def systemIds : List String :=
  ["http://www.w3.org/TR/xhtml1/DTD/xhtml1-strict.dtd",
    "http://www.w3.org/TR/xhtml1/DTD/xhtml1-frameset.dtd",
    "http://www.w3.org/TR/xhtml1/DTD/xhtml1-transitional.dtd"]

def isTypeOf (d : Doctype) : Bool :=
  (d.publicId.map publicIds.contains).getD false || (d.systemId.map systemIds.contains).getD false

def uri : String := "http://www.w3.org/1999/xhtml"

def emptyElements : List String :=
  ["area", "br", "base", "basefont", "col", "frame", "hr", "img", "input", "isindex", "link",
    "meta", "param"]

def switches : List String :=
  ["checked", "compact", "declare", "defer", "disabled", "ismap", "multiple", "nohref", "noresize",
    "noshade", "nowrap", "readonly", "selected"]

def namedElements : List String :=
  ["a", "p", "div", "img", "map", "applet", "form", "frame", "iframe"]

def lower (s : String) : String := String.ofList (s.toList.map Char.toLower)

def isSwitch (a : Attribute) : Bool := a.name.uri.isNone && switches.contains (lower a.name.base)

def isVacant (items : List DoctypeItem) : List Chunk → Bool
  | [] => true
  | .text s :: _ => s.isEmpty
  | .reference name :: _ => ((entityIn? items false name).map Entity.size).getD 0 == 0

/-- Gives a switch without a value its name as value, whatever follows the first chunk. -/
def fillAttribute (items : List DoctypeItem) (a : Attribute) : Attribute :=
  if isSwitch a && isVacant items a.value then { a with value := [.text a.name.base] } else a

def fillTag (items : List DoctypeItem) (t : Tag) : Tag :=
  { t with attributes := t.attributes.map (fillAttribute items) }

mutual

def fill (items : List DoctypeItem) : Node → Node
  | .element tag children => .element (fillTag items tag) (fillAll items children)
  | n => n

def fillAll (items : List DoctypeItem) : List Node → List Node
  | [] => []
  | n :: rest => fill items n :: fillAll items rest

end

mutual

/-- A node at an address, where the elements at some addresses have been written: the switches of
all elements inside these have a value. `inside` tells whether the node is inside one. -/
def fillWritten (written : List Address) (inside : Bool) (a : Address) : Node → Node
  | .element tag children =>
    .element (if inside then fillTag [] tag else tag)
      (fillWrittenIn written (inside || written.contains a) a 0 children)
  | n => n

def fillWrittenIn (written : List Address) (inside : Bool) (a : Address) (index : Nat) :
    List Node → List Node
  | [] => []
  | n :: rest =>
    fillWritten written inside (a ++ [index]) n
      :: fillWrittenIn written inside a (if n.isCharacters then index else index + 1) rest

end

mutual

theorem fillWritten_nil (a : Address) (n : Node) : fillWritten [] false a n = n := by
  cases n with
  | element tag children =>
    rw [fillWritten, List.contains_nil, Bool.or_false, fillWrittenIn_nil a 0 children]
    rfl
  | text _ | cdata _ | comment _ | instruction _ _ | reference _ => simp [fillWritten]

theorem fillWrittenIn_nil (a : Address) (index : Nat) (nodes : List Node) :
    fillWrittenIn [] false a index nodes = nodes := by
  cases nodes with
  | nil => rw [fillWrittenIn]
  | cons n rest => rw [fillWrittenIn, fillWritten_nil, fillWrittenIn_nil a _ rest]

end

def isEmptyElement (n : Name) : Bool :=
  n.qualifier.isNone && (n.uri.isNone || n.uri == some uri) && emptyElements.contains n.base

def lastValue? (p : Name → Bool) (t : Tag) : Option (List Chunk) :=
  (t.attributes.reverse.find? fun a => p a.name).map (·.value)

def isPlain (base : String) (n : Name) : Bool := n.uri.isNone && n.base == base

def isLanguage (n : Name) : Bool :=
  n.uri.isSome && n.base == "lang" && n.qualifier == some "xml"

def printUnder (name : String) (value : List Chunk) : List Char :=
  ' ' :: name.toList ++ '=' :: '"' :: Attribute.printValue value ++ ['"']

def printAgain (t : Tag) : List Char :=
  let id := match lastValue? (isPlain "name") t, lastValue? (isPlain "id") t with
    | some v, none => if namedElements.contains t.name.base then printUnder "id" v else []
    | _, _ => []
  let language := match lastValue? (isPlain "lang") t, lastValue? isLanguage t with
    | some v, none => printUnder "xml:lang" v
    | none, some v => printUnder "lang" v
    | _, _ => []
  id ++ language

/-- A tag without its closing bracket. -/
def printTag (t : Tag) : List Char :=
  let own := if t.name.base == "html" && t.name.uri.isNone && t.declarations.isEmpty then
      printUnder "xmlns" [.text uri]
    else []
  '<' :: t.name.written.toList ++ t.declarations.flatMap Declaration.print ++ own
    ++ t.attributes.flatMap Attribute.print ++ printAgain t

def tellsContent (items : List DoctypeItem) : Node → Bool
  | .element tag _ =>
    tag.name.base == "meta"
      && match tag.attributes.find? fun a => isPlain "http-equiv" a.name with
        | some a => lower (a.valueWith (expansion items (items.length + 1))) == "content-type"
        | none => false
  | _ => false

/-- Whether an element is the head of a document. Its tags are known where all of the document is
written, and not where a part of it is. -/
def isHead (above : Option (List Tag)) (t : Tag) : Bool :=
  match above with
  | some [root] => t.name.base == "head" && root.name.base == "html"
  | _ => false

def contentType : List Char :=
  "<meta http-equiv=\"Content-Type\" content=\"text/html; charset=UTF-8\" />".toList

mutual

/-- A node below some tags; a head that does not tell the encoding has it told. -/
def print (items : List DoctypeItem) (above : Option (List Tag)) : Node → List Char
  | .element tag children =>
    let told := if isHead above tag && !children.any (tellsContent items) then contentType else []
    if children.isEmpty && isEmptyElement tag.name && told.isEmpty then
      printTag tag ++ " />".toList
    else
      printTag tag ++ '>' :: told ++ printList items (above.map (tag :: ·)) children
        ++ '<' :: '/' :: tag.name.written.toList ++ ['>']
  | n => n.print

def printList (items : List DoctypeItem) (above : Option (List Tag)) : List Node → List Char
  | [] => []
  | n :: rest => print items above n ++ printList items above rest

end

theorem print_part (items : List DoctypeItem) (tag : Tag) (children : List Node) :
    print items none (.element tag children)
      = if children.isEmpty && isEmptyElement tag.name then printTag tag ++ " />".toList
        else printTag tag ++ '>' :: printList items none children
          ++ '<' :: '/' :: tag.name.written.toList ++ ['>'] := by
  have hhead : isHead none tag = false := rfl
  rw [print, hhead, Bool.false_and, if_neg Bool.false_ne_true, List.isEmpty_nil, Bool.and_true]
  simp

end Hypertext

/-- The markup of an element that is written by itself, out of a copy of a document. In the copy
references stand for nothing. -/
def Element.markupIn (hypertext : Bool) (e : Element) : String :=
  if hypertext then String.ofList (Hypertext.print [] none (Hypertext.fill [] e.node)) else e.print

end TemplateLexer.Markup
