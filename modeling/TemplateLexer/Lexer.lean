import TemplateLexer.Lexing.Helpers
import TemplateLexer.Lexing.Relations
import TemplateLexer.Loading
import TemplateLexer.Loading.Files
import TemplateLexer.Record
/-!
Lexing a template. Nodes are worked on innermost first, so that a node sees only the placeholders of
the nodes right inside it; read forward, the stream has every node before those inside it.
-/

set_option autoImplicit false

namespace TemplateLexer

open Markup

namespace Working

def node (p : Pass) (m : Marker) : Working Unit := do
  let before ← placeAt m.address
  modify fun w =>
    { w with intact := (m.id, before.element.detached before.above) :: w.intact }
  attributeHelpers p m
  elementHelper p m
  ofExcept p.policy.checkShield
  let place ← placeAt m.address
  emitSites p (p.selector.nodeExpressions place)
  let previous ← previous? p m
  let next ← next? p m
  let content := Content.nodeMarkup p.selector p.directives (p.settled place)
  let children ← children p m
  emit ⟨if m.address.isEmpty then .rootNode else .elementNode, m.line,
    .node ⟨m.id, m.path, m.ancestor, previous, next, content, children⟩⟩
  modify fun w => { w with done := m.id :: w.done }
  leavePlaceholder p m

def start (root : Element) : Work := ⟨root, [], [], []⟩

def nodes (p : Pass) : Working Unit := p.schedule.forM (node p)

end Working

abbrev LexedStream := TokenStream String Token

namespace Document

def property (kind : TokenKind) (value : String) : Token := ⟨kind, 0, .property (some value)⟩

def lexFrom (p : Pass) (d : Markup.Document) (file : Option String) : Logged LexedStream := do
  Logged.log (.lexing file p.selector.uris.length p.markers.length)
  match (Working.nodes p).run (Working.start d.root) with
  | .error f => Logged.fail f
  | .ok (_, w) => do
    let tokens := property .xmlVersion d.version :: property .xmlEncoding d.encoding :: w.tokens
    let stream : LexedStream := (⟨d.print, true, .building tokens, 0⟩ : LexedStream).freeze
    Logged.log (.lexed tokens.length)
    return stream

def lex (policy : Policy) (d : Markup.Document) (file : Option String) : Logged LexedStream := do
  let p ← Pass.start policy d file
  lexFrom p d file

def afterLexing (policy : Policy) (d : Markup.Document) : Markup.Document :=
  match (policy.classify d.root).run.1 with
  | .ok _ => d.settled
  | .error _ => d

end Document

namespace TokenStream

def lexedRecord (file : Option String) (s : LexedStream) : Record :=
  .stream s.isFrozen (.str s.source) (s.toList.map (Token.record file))

end TokenStream

def lexSource (policy : Policy) (source : Source) (file : Option String) :
    Logged LexedStream := do
  let d ← Logged.ofExcept (source.load file)
  Document.lex policy d file

def lexFile (policy : Policy) (files : List (String × List UInt8)) (path : String) :
    Logged LexedStream := do
  let plain := plainPath path
  Logged.log (.loading plain)
  let bytes ← Logged.ofExcept (readFile files plain)
  let d ← Logged.ofExcept ((Source.bytes bytes).load (some plain))
  Document.lex policy d (some path)

end TemplateLexer
