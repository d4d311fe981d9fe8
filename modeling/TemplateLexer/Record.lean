import TemplateLexer.Failure
import TemplateLexer.Json.Basic
import TemplateLexer.Token
import TemplateLexer.TokenStream
/-!
Records of tokens and streams. A record has the fields of its shape with any values; where a token
holds a stream, the record holds the record of the stream. Written as JSON a record names its shape.
-/

set_option autoImplicit false

namespace TemplateLexer

/-- The shapes of tokens. -/
inductive Shape where
  | property
  | node
  | helper
  | expression
  | content
  deriving DecidableEq, Repr

namespace Shape

def name : Shape → String
  | property => "PropertyToken"
  | node => "NodeToken"
  | helper => "HelperToken"
  | expression => "ExpressionToken"
  | content => "ExpressionContentToken"

def all : List Shape := [property, node, helper, expression, content]

def named? (s : String) : Option Shape := all.find? (·.name == s)

theorem named?_name (s : Shape) : named? s.name = some s := by
  cases s <;> decide

def fields : Shape → List (String × Json)
  | property => [("value", .null)]
  | node =>
    [("id", .str ""), ("path", .str ""), ("ancestor_id", .null), ("previous_sibling_id", .null),
      ("next_sibling_id", .null), ("content", .str ""), ("children", .arr [])]
  | helper =>
    [("id", .str ""), ("path", .str ""), ("name", .str ""), ("namespace", .str ""),
      ("attributes", .obj []), ("value", .null)]
  | expression =>
    [("id", .str ""), ("path", .str ""), ("attribute", .null), ("content", .null)]
  | content => [("value", .str "")]

end Shape

def shapeKey : String := "_type"

def streamShape : String := "TokenStream"

/-- The record of a token or a stream, or a plain value. The order of a stream that is not frozen
is that of pushing. -/
inductive Record where
  | value (json : Json)
  | token (shape : Shape) (kind : TokenKind) (fields : List (String × Record))
  | stream (frozen : Bool) (source : Json) (tokens : List Record)
  deriving Repr, Inhabited

namespace Record

mutual

/-- Equality: tokens have the same shape, kind and values; the sources of streams do not matter. -/
def same : Record → Record → Bool
  | value a, value b => a.same b
  | token s k xs, token s' k' ys => s == s' && k == k' && sameFields xs ys
  | stream f _ xs, stream f' _ ys => f == f' && sameTokens xs ys
  | _, _ => false

def sameTokens : List Record → List Record → Bool
  | [], [] => true
  | x :: xs, y :: ys => same x y && sameTokens xs ys
  | _, _ => false

def sameFields : List (String × Record) → List (String × Record) → Bool
  | [], [] => true
  | (k, x) :: xs, (k', y) :: ys => k == k' && same x y && sameFields xs ys
  | _, _ => false

end

mutual

/-- The written form; what is not frozen cannot be written. -/
def json : Record → Except Failure Json
  | value j => .ok j
  | token shape kind fields => do
    let entries ← jsonFields fields
    .ok (.obj ((shapeKey, .str shape.name) :: ("type", .str kind.name) :: entries))
  | stream frozen source tokens =>
    if frozen then do
      let items ← jsonTokens tokens
      .ok (.obj [(shapeKey, .str streamShape), ("source", source), ("tokens", .arr items)])
    else .error (.badRecord .notFrozen)

def jsonTokens : List Record → Except Failure (List Json)
  | [] => .ok []
  | r :: rest => do
    let j ← json r
    .ok (j :: (← jsonTokens rest))

def jsonFields : List (String × Record) → Except Failure (List (String × Json))
  | [] => .ok []
  | (k, r) :: rest => do
    let j ← json r
    .ok ((k, j) :: (← jsonFields rest))

end

def ofFields (shape : Shape) (kind : TokenKind) (line : Int) (file : Option String)
    (fields : List (String × Record)) : Record :=
  let common := [("lineno", value (.int line)), ("source_file", value (.ofOption .str file))]
  token shape kind (common ++ fields)

def text (s : String) : Record := value (.str s)

def optionalText (s : Option String) : Record := value (.ofOption .str s)

end Record

namespace ContentToken

def record (file : Option String) (t : ContentToken) : Record :=
  .ofFields .content t.kind t.line file [("value", .text t.value)]

end ContentToken

namespace Token

def record (file : Option String) (t : Token) : Record :=
  match t.body with
  | .property value => .ofFields .property t.kind t.line file [("value", .optionalText value)]
  | .node n =>
    .ofFields .node t.kind t.line file
      [("id", .text n.id), ("path", .text n.path), ("ancestor_id", .optionalText n.ancestor),
        ("previous_sibling_id", .optionalText n.previous),
        ("next_sibling_id", .optionalText n.next), ("content", .text n.content),
        ("children", .value (.arr (n.children.map .str)))]
  | .helper h =>
    .ofFields .helper t.kind t.line file
      [("id", .text h.id), ("path", .text h.path), ("name", .text h.base),
        ("namespace", .text h.uri),
        ("attributes", .value (.obj (h.attributes.map fun (k, v) => (k, .str v)))),
        ("value", .optionalText h.value)]
  | .site e =>
    .ofFields .expression t.kind t.line file
      [("id", .text e.id), ("path", .text e.path), ("attribute", .optionalText e.attributeName),
        ("content", .stream true (.str e.source) (e.content.map (ContentToken.record file)))]

end Token

abbrev RecordStream := TokenStream Json Record

namespace TokenStream

def record (s : RecordStream) : Record :=
  let (frozen, tokens) := s.content
  .stream frozen s.source tokens

def same (s t : RecordStream) : Bool := s.record.same t.record

end TokenStream

end TemplateLexer
