import TemplateLexer.Lexing.Marker
import TemplateLexer.Token
/-!
The second phase works on a copy of the document, which shrinks: a node that is done leaves a
placeholder with its id behind. Tokens are emitted last one first.
-/

set_option autoImplicit false

namespace TemplateLexer

open Markup

/-- What changes during a pass. -/
structure Work where
  root : Element
  /-- Newest first, which is the order of reading. -/
  tokens : List Token
  /-- Copies of nodes as they were when work on them began, by id. -/
  intact : List (String × Element)
  /-- Ids of the nodes that have a token. -/
  done : List String

abbrev Working := StateT Work (Except Failure)

namespace Working

def fail {α : Type} (f : Failure) : Working α := fun _ => .error f

def ofExcept {α : Type} : Except Failure α → Working α
  | .ok a => pure a
  | .error f => fail f

def emit (t : Token) : Working Unit := modify fun w => { w with tokens := t :: w.tokens }

def root : Working Element := do return (← get).root

def placeAt (a : Address) : Working Place := do
  match (← root).locate [] a with
  | some (above, element) => return ⟨a, above, element⟩
  | none => fail .outOfRange

end Working

namespace Policy

def isPlaceholder (p : Policy) (t : Tag) : Bool := p.placeholder.str? == some t.name.expanded

end Policy

def Markup.Tag.id? (t : Tag) : Option String := (t.attribute? "id").map (·.plainValue)

namespace Working

def replaced (placeholder : Element) (index : Nat) (nodes : List Node) : List Node :=
  match around index nodes with
  | some (before, _, run, rest) =>
    let tail := if run.isEmpty then [] else [.text (runText run)]
    before ++ placeholder.node :: tail ++ rest
  | none => nodes

/-- Leaves a placeholder where a node was; the root stays. -/
def leavePlaceholder (p : Pass) (m : Marker) : Working Unit := do
  match m.address.getLast? with
  | none => return
  | some index =>
    let place ← placeAt m.address
    let placeholder ← ofExcept (p.policy.newPlaceholder place.above m.id)
    modify fun w =>
      { w with root := w.root.modifyChildren (replaced placeholder index) m.address.dropLast }

end Working

end TemplateLexer
