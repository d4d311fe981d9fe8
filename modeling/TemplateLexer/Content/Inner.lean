import TemplateLexer.Markup.Printer

set_option autoImplicit false

namespace TemplateLexer.Content

open Markup

/-- A copy of an element on its own that has no attributes. -/
def shell (above : List Tag) (e : Element) : Element :=
  let copy := e.detached above
  { copy with tag := { copy.tag with attributes := [] } }

/-- The index behind the first closing bracket; it is 0 where there is none. -/
def insideStart (cs : List Char) : Nat := ((cs.findIdx? (· == '>')).map (· + 1)).getD 0

def endMark : List Char := ['<', '/']

def insideStop? : List Char → Option Nat
  | [] => none
  | c :: cs =>
    match insideStop? cs with
    | some i => some (i + 1)
    | none => if endMark.isPrefixOf (c :: cs) then some 0 else none

/-- What stands between the first closing bracket and the last end mark. An element without an end
tag has nothing inside. -/
def inside (cs : List Char) : List Char :=
  match insideStop? cs with
  | some stop => (cs.take stop).drop (insideStart cs)
  | none => []

def innerMarkup (above : List Tag) (e : Element) : String :=
  String.ofList (inside (shell above e).node.print)

end TemplateLexer.Content
