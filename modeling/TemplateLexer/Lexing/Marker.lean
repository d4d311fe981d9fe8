import TemplateLexer.Markup.Document
import TemplateLexer.Markup.Path
import TemplateLexer.Namespaces
import TemplateLexer.Policy.Use
import TemplateLexer.Selection.Sites
/-!
The first phase of a pass finds the nodes of a document. A marker keeps what is known of a node
before the document is changed: its path, its id, and the node around it.
-/

set_option autoImplicit false

namespace TemplateLexer

open Markup

/-- A node; `order` is its position among all nodes in document order. -/
structure Marker where
  address : Address
  id : String
  path : String
  depth : Nat
  order : Nat
  ancestor : Option String
  line : Nat
  deriving DecidableEq, Repr

def Selector.of (policy : Policy) (uris : List String) : Except Failure Selector := do
  discard (Query.Tests.of (uris.map .str) policy)
  return { uris, policy, expand := fun _ => "" }

/-- What stays fixed during a pass. -/
structure Pass where
  file : Option String
  /-- Whether the document type is one of XHTML. -/
  hypertext : Bool
  selector : Selector
  directives : Matcher
  digest : Digest
  paths : List (Address × String)
  markers : List Marker

namespace Pass

def addressesAbove (a : Address) : List Address :=
  (List.range a.length).reverse.map fun n => a.take n

def enclosing? (ids : List (Address × String)) (a : Address) : Option String :=
  (addressesAbove a).findSome? fun b => ids.lookup b

def pathIn (paths : List (Address × String)) (a : Address) : String := (paths.lookup a).getD ""

def markersOf (digest : Digest) (paths : List (Address × String)) (places : List Place) :
    List Marker :=
  let ids := places.map fun p => (p.address, digest.hex (pathIn paths p.address))
  places.zipIdx.map fun (p, order) =>
    { address := p.address
      id := digest.hex (pathIn paths p.address)
      path := pathIn paths p.address
      depth := p.depth
      order
      ancestor := enclosing? ids p.address
      line := p.tag.line }

def policy (p : Pass) : Policy := p.selector.policy

def pathsOf (root : Element) : Except Failure (List (Address × String)) :=
  root.places.mapM fun p =>
    match root.path? p.address with
    | some path => .ok (p.address, path)
    | none => .error .unreadablePath

/-- Gets a pass over a document ready: the pattern of directives, and the nodes. Without helpers
only the root is a node, and what is shielded does not matter yet. -/
def prepare (policy : Policy) (selector : Selector) (d : Document) (file : Option String) :
    Logged Pass := do
  let directives ← Logged.ofExcept (policy.matcher)
  let paths ← Logged.ofExcept (pathsOf d.root)
  if !selector.uris.isEmpty then Logged.ofExcept policy.checkShield
  let digest ← Logged.ofExcept (policy.hashing)
  return { file, hypertext := d.isHypertext, selector, directives, digest, paths
           markers := markersOf digest paths (selector.nodes d.root) }

def start (policy : Policy) (d : Document) (file : Option String) : Logged Pass := do
  let uris ← policy.classify d.root
  let selector ← Logged.ofExcept (Selector.of policy uris)
  prepare policy selector d file

def pathAt (p : Pass) (a : Address) : String := pathIn p.paths a

def attributePath (p : Pass) (a : Address) (tags : List Tag) (n : Name) : String :=
  p.pathAt a ++ "/@" ++ qualified n
where
  qualified (n : Name) : String := Markup.qualifiedName tags n.uri n.base

def markerAt? (p : Pass) (a : Address) : Option Marker := p.markers.find? (·.address == a)

def spot (p : Pass) (path : String) (line : Option Nat) : Spot :=
  ⟨some path, line.map Int.ofNat, p.file⟩

def comesBefore (a b : Marker) : Bool :=
  b.depth < a.depth || (a.depth == b.depth && b.order ≤ a.order)

def enqueue (m : Marker) : List Marker → List Marker
  | [] => [m]
  | n :: rest => if comesBefore m n then m :: n :: rest else n :: enqueue m rest

def schedule (p : Pass) : List Marker := p.markers.foldl (fun queue m => enqueue m queue) []

end Pass

end TemplateLexer
