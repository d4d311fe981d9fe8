import TemplateLexer.Digest
import TemplateLexer.Json.Basic
import TemplateLexer.Pattern.Reader
/-!
The policy of a lexing pass: which namespaces may carry helpers, the element that shields its
content, the stand-in for nodes that are done, and which comments are directives. A policy may hold
values of any kind; one that is no good for its use is refused when it comes to be used.
-/

set_option autoImplicit false

namespace TemplateLexer

/-- What reads patterns, and what knows digests by their names. -/
structure Engines where
  matcher? : String → Option Matcher
  digest : String → Except Digest.Unnamed Digest

def Engines.standard : Engines := ⟨Matcher.read?, Digest.named⟩

structure Policy where
  /-- Namespaces that never carry helpers; this set wins over the next one. -/
  denied : Option (List Json)
  /-- Only these namespaces carry helpers; without a set, all that are not denied. -/
  allowed : Option (List Json)
  rawUri : Json
  rawBase : Json
  placeholder : Json
  directive : Json
  digest : Json
  strict : Bool
  engines : Engines := .standard

namespace Policy

/-- Well-known vocabularies, which a template may use but whose elements are no helpers. -/
def vocabularies : List String :=
  ["http://www.w3.org/1998/Math/MathML", "http://www.w3.org/1999/Math/MathML",
    "http://www.w3.org/1999/XSL/Transform", "http://www.w3.org/1999/xhtml",
    "http://www.w3.org/1999/xlink", "http://www.w3.org/2000/svg",
    "http://www.w3.org/2001/XInclude", "http://www.w3.org/XML/1998/namespace"]

def standard : Policy where
  denied := some (vocabularies.map .str)
  allowed := none
  rawUri := .str "http://elixir.mohiva.com"
  rawBase := .str "Raw"
  placeholder := .str "__N_-_O_-_D_-_E__"
  directive := .str "^%.*%$"
  digest := .str "sha1"
  strict := false

end Policy

end TemplateLexer
