import TemplateLexer.Markup.Reader.Tag

set_option autoImplicit false

namespace TemplateLexer.Markup.Reading

/-- An open element, its name as written, and the nodes before it, newest first. -/
structure OpenElement where
  written : TagName
  tag : Tag
  before : List Node

/-- Adds text to nodes, newest first; it joins text that is there. -/
def addCharacters (s : String) : List Node → List Node
  | .text t :: rest => .text (t ++ s) :: rest
  | rest => if s.isEmpty then rest else .text s :: rest

def depthLimit : Nat := 256

def contentReference (readEntity : Entity → Reading Unit) (done : List Node) :
    Reading (List Node) := do
  if ← passes "&#" then return addCharacters (String.ofList [← charReference]) done
  need "&"
  let n ← referenceName
  match namedChar? n with
  | some c => return addCharacters (String.ofList [c]) done
  | none => do
    match ← lookUp false n with
    | some e => do
      if !(← standing e).fitsContent then readEntity e
      count (← standing e).size
    | none => pure ()
    return .reference n :: done

/-- Characters up to the next tag or reference; the end mark of sections may not stand among
them. -/
def characters (done : List Node) : Reading (List Node) := do
  let cs ← takeTo fun cs =>
    match cs with
    | '<' :: _ | '&' :: _ | ']' :: ']' :: '>' :: _ => true
    | _ => false
  if ← sees "]]>" then refuse
  return addCharacters (String.ofList (plainBreaks cs)) done

/-- Reads nodes; `done` has those of the innermost open element, newest first, and `depth` counts
the elements around the first one. Reading stops at a tag that closes no element, and at the end of
the text; `whole` asks to stop when the last open element is closed. -/
def content (readEntity : Nat → Entity → Reading Unit) (whole : Bool) (depth : Nat) :
    (fuel : Nat) → (opened : List OpenElement) → (done : List Node) → Reading (List Node)
  | 0, _, _ => refuse
  | fuel + 1, opened, done => do
    let finished (outer : List OpenElement) (done : List Node) : Reading (List Node) :=
      if whole && outer.isEmpty then return done.reverse
      else content readEntity whole depth fuel outer done
    if (← rest).isEmpty then
      if opened.isEmpty then return done.reverse else refuse
    else if ← passes "<![CDATA[" then
      content readEntity whole depth fuel opened (.cdata (← takeUntil "]]>") :: done)
    else if ← sees "</" then
      match opened with
      | [] => return done.reverse
      | o :: outer => do
        closingTag o.written
        finished outer (.element o.tag done.reverse :: o.before)
    else
      match ← remarkNode? with
      | some n => content readEntity whole depth fuel opened (n :: done)
      | none =>
        if ← sees "<" then
          let (written, tag) ← openingTag (opened.map (·.tag))
          if depthLimit ≤ depth + opened.length then refuse
          if ← passes "/>" then finished opened (.element tag [] :: done)
          else
            need ">"
            content readEntity whole depth fuel (⟨written, tag, done⟩ :: opened) []
        else if ← sees "&" then
          content readEntity whole depth fuel opened
            (← contentReference (readEntity (depth + opened.length)) done)
        else
          content readEntity whole depth fuel opened (← characters done)

/-- Reads the text of an entity as content: its elements are closed inside it. It counts as one
element around them. -/
def readEntity : (nesting : Nat) → (depth : Nat) → Entity → Reading Unit
  | 0, _, _ => refuse
  | n + 1, depth, e => do
    match e.value with
    | .literal _ text => do
      opening e <| within e text do
        discard <| content (readEntity n) false (depth + 1) (text.length + 1) [] []
        if !(← rest).isEmpty && (← get).remarks.faultLine.isNone then refuse
      changeStanding e fun v =>
        { v with
          fitsContent := true
          counted := true
          size := if v.counted then v.size else v.size + e.size }
    | _ => return

def rootElement : Reading Element := do
  let (written, tag) ← openingTag []
  if ← passes "/>" then return ⟨tag, []⟩
  need ">"
  let nodes ← content (readEntity (nestingLimit + 1)) true 0 ((← rest).length + 1)
    [⟨written, tag, []⟩] []
  match nodes with
  | [.element tag children] => return ⟨tag, children⟩
  | _ => refuse

end TemplateLexer.Markup.Reading
