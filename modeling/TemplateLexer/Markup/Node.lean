import TemplateLexer.Markup.Name

set_option autoImplicit false

namespace TemplateLexer.Markup

inductive Node where
  | element (tag : Tag) (children : List Node)
  | text (s : String)
  | cdata (s : String)
  | comment (body : String)
  | instruction (target : String) (data : Option String)
  | reference (name : String)
  deriving Repr, Inhabited

structure Element where
  tag : Tag
  children : List Node
  deriving Repr

namespace Node

def isElement : Node → Bool
  | element _ _ => true
  | _ => false

def isCharacters : Node → Bool
  | text _ | cdata _ => true
  | _ => false

def characters : Node → String
  | text s | cdata s => s
  | _ => ""

def element? : Node → Option Element
  | element tag children => some ⟨tag, children⟩
  | _ => none

end Node

def Element.node (e : Element) : Node := .element e.tag e.children

def items (nodes : List Node) : List Node := nodes.filter fun n => !n.isCharacters

def runText (nodes : List Node) : String := String.join (nodes.map Node.characters)

/-- Splits nodes around the child with an index: those before it, the child, the run of text that
follows it, and the rest. -/
def around : (index : Nat) → List Node → Option (List Node × Node × List Node × List Node)
  | _, [] => none
  | index, n :: rest =>
    if n.isCharacters then (around index rest).map fun (b, x, run, r) => (n :: b, x, run, r)
    else
      match index with
      | 0 => some ([], n, rest.takeWhile Node.isCharacters, rest.dropWhile Node.isCharacters)
      | index + 1 => (around index rest).map fun (b, x, run, r) => (n :: b, x, run, r)

def modifyChild (f : Node → Node) : (index : Nat) → List Node → List Node
  | _, [] => []
  | index, n :: rest =>
    if n.isCharacters then n :: modifyChild f index rest
    else
      match index with
      | 0 => f n :: rest
      | index + 1 => n :: modifyChild f index rest

abbrev Address := List Nat

namespace Element

def nodeAt (e : Element) : Address → Option Node
  | [] => some e.node
  | i :: rest =>
    match (items e.children)[i]? with
    | some (.element tag children) => nodeAt ⟨tag, children⟩ rest
    | some n => if rest.isEmpty then some n else none
    | none => none

def replaceAt (f : Element → Element) (e : Element) : Address → Element
  | [] => f e
  | i :: rest =>
    { e with
      children := modifyChild (fun n =>
        match n with
        | .element tag children => (replaceAt f ⟨tag, children⟩ rest).node
        | n => n) i e.children }

def modifyChildren (f : List Node → List Node) (e : Element) (a : Address) : Element :=
  e.replaceAt (fun e => { e with children := f e.children }) a

def modifyTag (f : Tag → Tag) (e : Element) (a : Address) : Element :=
  e.replaceAt (fun e => { e with tag := f e.tag }) a

end Element

end TemplateLexer.Markup
