import TemplateLexer.Markup.Printer
import TemplateLexer.Pattern
/-!
Directive comments and how nodes are taken out of a tree. Text that follows a node which goes stays,
joined to the text before it.
-/

set_option autoImplicit false

namespace TemplateLexer

open Markup

namespace Content

/-- The markup of a comment; a directive has none. -/
def commentMarkup (m : Matcher) (body : String) : String :=
  if m.holds body then "" else String.ofList (printComment body)

/-- Nodes to come before others, newest first, with a text that followed a node taken out: it joins
the run before it as one text. -/
def joinRun (before : List Node) (s : String) : List Node :=
  if s.isEmpty then before
  else
    .text (runText (before.takeWhile Node.isCharacters).reverse ++ s)
      :: before.dropWhile Node.isCharacters

def dropChild (index : Nat) (nodes : List Node) : List Node :=
  match around index nodes with
  | some (before, _, run, rest) => (joinRun before.reverse (runText run)).reverse ++ rest
  | none => nodes

mutual

/-- A node without the directives below it. -/
def withoutDirectives (m : Matcher) : Node → Node
  | .element tag children => .element tag (dropDirectives m [] none children)
  | n => n

/-- Nodes without directives. `before` has the nodes before, newest first; after a directive, `tail`
has the text that followed it so far. -/
def dropDirectives (m : Matcher) (before : List Node) (tail : Option String) :
    List Node → List Node
  | [] => (joinRun before (tail.getD "")).reverse
  | n :: rest =>
    match n, tail with
    | .text s, some t => dropDirectives m before (some (t ++ s)) rest
    | .cdata s, some t => dropDirectives m before (some (t ++ s)) rest
    | .comment body, tail =>
      let before := joinRun before (tail.getD "")
      if m.holds body then dropDirectives m before (some "") rest
      else dropDirectives m (.comment body :: before) none rest
    | n, tail =>
      dropDirectives m (withoutDirectives m n :: joinRun before (tail.getD "")) none rest

end

end Content

namespace Markup.Element

/-- An element without the directives below it. -/
def withoutDirectives (m : Matcher) (e : Element) : Element :=
  { e with children := Content.dropDirectives m [] none e.children }

def dropAt (root : Element) (address : Address) : Element :=
  match address.getLast? with
  | some index => root.modifyChildren (Content.dropChild index) address.dropLast
  | none => root

end Markup.Element

end TemplateLexer
