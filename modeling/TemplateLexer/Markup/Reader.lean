import TemplateLexer.Markup.Document
import TemplateLexer.Markup.Reader.Content
import TemplateLexer.Markup.Reader.Subset

set_option autoImplicit false

namespace TemplateLexer.Markup

namespace Reading

def document (judge : String → Verdict) (encoding : Heading → String) : Reading Document := do
  let h ← heading judge
  modify fun s => { s with standalone := h.standalone }
  let size := (← rest).length + 1
  let first ← misc size []
  let (doctype, before, inner) ← if ← sees "<!DOCTYPE" then do
      let t ← doctype
      pure (some t, first, ← misc size [])
    else pure (none, [], first)
  let root ← rootElement
  let after ← misc size []
  if !(← rest).isEmpty && (← get).remarks.faultLine.isNone then refuse
  return { version := h.version, encoding := encoding h, leading := before, doctype
           before := inner, root, after }

end Reading

/-- Reads a document; a refusal has the line to report. -/
def Document.read (judge : String → Reading.Verdict) (encoding : Reading.Heading → String)
    (cs : List Char) : Except Nat Document :=
  match Reading.document judge encoding (.start cs) with
  | .error line => .error line
  | .ok (d, s) => if s.remarks.refuses then .error s.reportedLine else .ok d

end TemplateLexer.Markup
