/-!
Tokens of a lexed template. A stream of them begins with the properties of the document; then comes
every node, followed by its helpers and its expressions.
-/

set_option autoImplicit false

namespace TemplateLexer

inductive TokenKind where
  | xmlVersion
  | xmlEncoding
  | rootNode
  | elementNode
  | elementHelper
  | attributeHelper
  | expression
  | expressionOpen
  | expressionClose
  | expressionChars
  | expressionElement
  | expressionComment
  | expressionCdata
  | expressionInstruction
  deriving DecidableEq, Repr

namespace TokenKind

def name : TokenKind → String
  | xmlVersion => "XML_VERSION"
  | xmlEncoding => "XML_ENCODING"
  | rootNode => "ROOT_NODE"
  | elementNode => "ELEMENT_NODE"
  | elementHelper => "ELEMENT_HELPER"
  | attributeHelper => "ATTRIBUTE_HELPER"
  | expression => "EXPRESSION"
  | expressionOpen => "EXPRESSION_OPEN"
  | expressionClose => "EXPRESSION_CLOSE"
  | expressionChars => "EXPRESSION_CHARS"
  | expressionElement => "EXPRESSION_ELEMENT"
  | expressionComment => "EXPRESSION_COMMENT"
  | expressionCdata => "EXPRESSION_CDATA"
  | expressionInstruction => "EXPRESSION_PI"

def all : List TokenKind :=
  [xmlVersion, xmlEncoding, rootNode, elementNode, elementHelper, attributeHelper, expression,
    expressionOpen, expressionClose, expressionChars, expressionElement, expressionComment,
    expressionCdata, expressionInstruction]

def named? (s : String) : Option TokenKind := all.find? (·.name == s)

theorem named?_name (k : TokenKind) : named? k.name = some k := by
  cases k <;> decide

end TokenKind

/-- A piece of an expression site: a delimiter, characters or embedded markup. -/
structure ContentToken where
  kind : TokenKind
  line : Int
  value : String
  deriving DecidableEq, Repr

/-- A node of the template. Other nodes are named by their ids. -/
structure NodeFields where
  id : String
  path : String
  ancestor : Option String
  previous : Option String
  next : Option String
  content : String
  children : List String
  deriving DecidableEq, Repr

/-- A helper: an element with its other attributes, or an attribute with its value. -/
structure HelperFields where
  id : String
  path : String
  base : String
  uri : String
  attributes : List (String × String)
  value : Option String
  deriving DecidableEq, Repr

/-- An expression site: the value of an attribute or the content of an element. -/
structure SiteFields where
  id : String
  path : String
  attributeName : Option String
  source : String
  content : List ContentToken
  deriving DecidableEq, Repr

inductive TokenBody where
  | property (value : Option String)
  | node (fields : NodeFields)
  | helper (fields : HelperFields)
  | site (fields : SiteFields)
  deriving DecidableEq, Repr

structure Token where
  kind : TokenKind
  line : Int
  body : TokenBody
  deriving DecidableEq, Repr

end TemplateLexer
