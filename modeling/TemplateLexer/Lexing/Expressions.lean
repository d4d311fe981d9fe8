import TemplateLexer.Content.Items
import TemplateLexer.Content.Strip
import TemplateLexer.Expression.Scanner
import TemplateLexer.Lexing.Work
/-!
Tokens of expression sites. The value of an attribute or the text of an element is split into runs;
markup inside an element is kept as it is, and an expression may go on across it.
-/

set_option autoImplicit false

namespace TemplateLexer

open Markup

namespace RunKind

def tokenKind : RunKind → TokenKind
  | opens => .expressionOpen
  | closes => .expressionClose
  | _ => .expressionChars

end RunKind

namespace Selector

def writtenFor (s : Selector) : Site → List Address
  | .attributeOf _ _ => []
  | .contentOf owner =>
    (Content.items owner.element).filterMap fun
      | .child index =>
        match (items owner.element.children)[index]? with
        | some (.element tag _) =>
          if s.policy.isPlaceholder tag then none else some (owner.address ++ [index])
        | _ => none
      | _ => none

/-- A node of hypertext as reading its sites leaves it: what was written of it has its switches
filled. -/
def written (s : Selector) (q : Place) : Place :=
  let addresses := (s.nodeExpressions q).flatMap s.writtenFor
  { q with element := { q.element with
      children := Hypertext.fillWrittenIn addresses false q.address 0 q.element.children } }

end Selector

def Pass.settled (p : Pass) (q : Place) : Place :=
  if p.hypertext then p.selector.written q else q

namespace Pass

theorem settled_of_nodeExpressions {p : Pass} {q : Place} (h : p.selector.nodeExpressions q = []) :
    p.settled q = q := by
  rw [settled, Selector.written, h, List.flatMap_nil, Hypertext.fillWrittenIn_nil]
  split <;> rfl

@[simp] theorem tag_settled (p : Pass) (q : Place) : (p.settled q).tag = q.tag := by
  rw [settled]
  split <;> rfl

@[simp] theorem above_settled (p : Pass) (q : Place) : (p.settled q).above = q.above := by
  rw [settled]
  split <;> rfl

end Pass

/-- The content of a site so far: the scanner, the tokens newest first, and the source. -/
structure SiteContent where
  scanner : Scanner
  tokens : List ContentToken
  source : String

namespace SiteContent

def start (line : Nat) : SiteContent := ⟨.start line, [], ""⟩

def addToken (t : ContentToken) : List ContentToken → List ContentToken
  | last :: rest =>
    if t.kind = .expressionChars ∧ last.kind = .expressionChars then
      { last with value := last.value ++ t.value } :: rest
    else t :: last :: rest
  | [] => [t]

def addText (c : SiteContent) (s : String) : SiteContent :=
  let (runs, scanner) := c.scanner.feed s
  { scanner
    tokens := runs.foldl (fun ts r => addToken ⟨r.kind.tokenKind, r.line, r.value⟩ ts) c.tokens
    source := c.source ++ s }

/-- Adds markup that is not split. -/
def addMarkup (c : SiteContent) (kind : TokenKind) (markup : String) : SiteContent :=
  { scanner := c.scanner.advance markup.toList
    tokens := addToken ⟨kind, c.scanner.line, markup⟩ c.tokens
    source := c.source ++ markup }

/-- The token of a site; every expression has to be closed. -/
def token (p : Pass) (path : String) (line : Nat) (attributeName : Option String)
    (c : SiteContent) : Except Failure Token :=
  if c.scanner.depth = 0 then
    .ok ⟨.expression, line,
      .site ⟨p.digest.hex path, path, attributeName, c.source, c.tokens.reverse⟩⟩
  else .error (.unclosedExpression (p.spot path (some line)))

end SiteContent

namespace Working

def attributeSite (p : Pass) (place : Place) (a : Attribute) : Working Token :=
  let line := place.tag.line
  let path := p.attributePath place.address place.tags a.name
  let name := qualifiedName place.tags a.name.uri a.name.base
  ofExcept (((SiteContent.start line).addText a.plainValue).token p path line (some name))

def embedded (p : Pass) (owner : Place) (e : Element) : Working String := do
  if p.policy.isPlaceholder e.tag then
    let id := e.tag.id?.getD ""
    match (← get).intact.lookup id with
    | some node => return node.print
    | none =>
      let line := if e.tag.line = 0 then none else some e.tag.line
      fail (.unresolvedPlaceholder id (p.spot (p.pathAt owner.address) line))
  else return (e.alone owner.tags).markupIn p.hypertext

def addItem (p : Pass) (owner : Place) (c : SiteContent) (item : Content.Item) :
    Working SiteContent := do
  match item with
  | .text s => return c.addText s
  | .cdata markup => return c.addMarkup .expressionCdata markup
  | .child index =>
    match (items owner.element.children)[index]? with
    | none => fail .outOfRange
    | some (.comment body) =>
      let markup := Content.commentMarkup p.directives body
      if markup.isEmpty then return c else return c.addMarkup .expressionComment markup
    | some (.instruction target data) =>
      let data := if data == some "" then none else data
      return c.addMarkup .expressionInstruction (String.ofList (printInstruction target data))
    | some (.reference name) => return c.addText (String.ofList (printReference name))
    | some (.element tag children) =>
      return c.addMarkup .expressionElement (← embedded p owner ⟨tag, children⟩)
    | some _ => return c

def contentSite (p : Pass) (place : Place) : Working Token := do
  let line := place.tag.line
  let c ← (Content.items place.element).foldlM (addItem p place) (SiteContent.start line)
  ofExcept (c.token p (p.pathAt place.address) line none)

def siteToken (p : Pass) : Site → Working Token
  | .attributeOf owner a => attributeSite p owner a
  | .contentOf owner => contentSite p owner

def emitSites (p : Pass) (sites : List Site) : Working Unit :=
  sites.reverse.forM fun s => do emit (← siteToken p s)

end Working

end TemplateLexer
