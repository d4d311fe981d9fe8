import TemplateLexer.Markup.Reader.Value

set_option autoImplicit false

namespace TemplateLexer.Markup.Reading

def literal : Reading String := do
  let q ← needQuote
  takeUntil (String.ofList [q])

def isPublicChar (c : Char) : Bool :=
  c.isAlphanum || " \r\n-'()+,./:=?;!*#@$_%".toList.contains c

def firstOfBreaks : List Char → List Char
  | '\r' :: '\n' :: cs => '\r' :: firstOfBreaks cs
  | c :: cs => c :: firstOfBreaks cs
  | [] => []

def publicLiteral : Reading String := do
  let q ← needQuote
  let front ← takeWhile fun c => isPublicChar c && c != q
  need (String.ofList [q])
  return String.ofList (firstOfBreaks front)

/-- The identifiers of something outside the document, if there are any; a system identifier may
be missing only after a public one, and only if `loose`. -/
def outside (loose : Bool) : Reading (Option String × Option String) := do
  if ← passes "SYSTEM" then
    needBlanks
    return (none, some (← literal))
  else if ← passes "PUBLIC" then
    needBlanks
    let p ← publicLiteral
    let gap ← blanks
    let more := (← sees "\"") || (← sees "'")
    if gap && more then return (some p, some (← literal))
    else if loose then return (some p, none)
    else refuse
  else return (none, none)

def parameterReference : Reading (Option Entity) := do
  let n ← referenceName
  modify fun s => { s with incomplete := true }
  match entityIn? (← get).items true n with
  | some e => return some e
  | none => do
    unexplained
    return none

/-- Reads the literal of an entity: references by number are read, and others stay. A reference to
an entity for use inside declarations may not stand there; one that nothing explains ends the text.
-/
def entityText : (fuel : Nat) → (done : List Char) → Reading (List Char)
  | 0, _ => refuse
  | fuel + 1, done => do
    match ← rest with
    | [] => return done.reverse
    | '%' :: _ => do
      need "%"
      match ← parameterReference with
      | some _ => refuse
      | none => return done.reverse
    | '&' :: '#' :: _ => do
      need "&#"
      entityText fuel ((← charReference) :: done)
    | '&' :: _ => do
      need "&"
      let n ← referenceName
      entityText fuel (';' :: n.toList.reverse ++ '&' :: done)
    | c :: after => do
      if !isChar c.toNat then refuse
      moveTo [] after
      entityText fuel (c :: done)

def entityLiteral : Reading EntityValue := do
  let q ← needQuote
  let written ← takeWhile (· != q)
  need (String.ofList [q])
  let after ← rest
  modify fun s => { s with here := { s.here with rest := written } }
  let value ← entityText (written.length + 1) []
  modify fun s => { s with here := { s.here with rest := after } }
  return .literal (String.ofList written) (String.ofList value)

def entityValue (parameter : Bool) : Reading EntityValue := do
  if (← sees "\"") || (← sees "'") then return (← entityLiteral)
  match ← outside false with
  | (_, none) => refuse
  | (publicId, some systemId) => do
    if systemId.contains '#' then refuse
    let gap ← blanks
    if gap && !parameter && (← passes "NDATA") then
      needBlanks
      return .formatted publicId systemId (← takeFront name?)
    return .outside publicId systemId

/-- Whether a literal stands for a character that has a name of its own: it may be the character
itself unless that begins markup, or a reference to it by number. -/
def spells (c : Char) (literal : String) : Bool :=
  let hexDigit (n : Nat) : Char := "0123456789abcdef".toList.getD n '0'
  (literal == String.singleton c && c != '<' && c != '&')
    || literal == "&#" ++ toString c.toNat ++ ";"
    || (literal.startsWith "&#x" && literal.toLower == String.ofList
        ['&', '#', 'x', hexDigit (c.toNat / 16), hexDigit (c.toNat % 16), ';'])

/-- Whether an entity may be declared: names that the markup language has itself keep their
meaning. -/
def keepsNamed (e : Entity) : Bool :=
  match e.parameter, namedChar? e.name, e.value with
  | false, some c, .literal _ value => spells c value
  | false, some _, _ => false
  | _, _, _ => true

def addItem (item : DoctypeItem) : Reading Unit :=
  modify fun s => { s with items := item :: s.items }

/-- A name that is no qualified one. -/
def plainName : Reading String := do
  let n ← name
  if n.contains ':' then remark .fault
  return n

def entity : Reading Unit := do
  need "<!ENTITY"
  needBlanks
  let parameter ← passes "%"
  if parameter then needBlanks
  let n ← plainName
  needBlanks
  let e : Entity := ⟨parameter, n, ← entityValue parameter⟩
  if !keepsNamed e then remark .warning
  else if (entityIn? (← get).items parameter n).isNone then addItem (.entity e)
  discard blanks
  need ">"

def occurrence : Reading Occurrence := do
  if ← passes "?" then return .optional
  else if ← passes "*" then return .any
  else if ← passes "+" then return .several
  else return .once

def groupLimit : Nat := 256

def members (member : Reading ContentModel) : (fuel : Nat) → (sequence : Option Bool) →
    (done : List ContentModel) → Reading (Bool × List ContentModel)
  | 0, _, _ => refuse
  | fuel + 1, sequence, done => do
    discard blanks
    if ← passes ")" then return (sequence.getD true, done.reverse)
    let isSequence ← passes ","
    if !isSequence then need "|"
    if sequence.any (· != isSequence) then refuse
    discard blanks
    members member fuel (some isSequence) ((← member) :: done)

def group : (depth : Nat) → Reading ContentModel
  | 0 => refuse
  | depth + 1 => do
    let member : Reading ContentModel := do
      if ← passes "(" then group depth else return .element (← name) (← occurrence)
    discard blanks
    let first ← member
    let (sequence, more) ← members member ((← rest).length + 1) none []
    return (ContentModel.ofMembers sequence first more).grouped (← occurrence)

def mixedNames : (fuel : Nat) → (done : List ContentModel) → Reading (List ContentModel)
  | 0, _ => refuse
  | fuel + 1, done => do
    if ← passes "|" then
      discard blanks
      let n ← name
      discard blanks
      mixedNames fuel (.element n .once :: done)
    else
      need ")*"
      return done.reverse

/-- A model of characters, with or without names among them. -/
def mixed : Reading ContentModel := do
  need "#PCDATA"
  discard blanks
  if ← sees "|" then
    let names ← mixedNames ((← rest).length + 1) []
    return (ContentModel.ofMembers false (.text .once) names).withOccurrence .any
  else
    need ")"
    return .text (if ← passes "*" then .any else .once)

def elementContent : Reading ElementContent := do
  if ← passes "EMPTY" then return .empty
  else if ← passes "ANY" then return .anything
  else
    need "("
    discard blanks
    if ← sees "#PCDATA" then return .model (← mixed)
    else return .model (← group groupLimit)

def element : Reading Unit := do
  need "<!ELEMENT"
  needBlanks
  let n ← name
  needBlanks
  let content ← elementContent
  discard blanks
  need ">"
  let known := (← get).items.any fun
    | .element m _ => m == n
    | _ => false
  if known then remark .fault else addItem (.element n content)

def alternatives (word : Reading String) : (fuel : Nat) → (done : List String) →
    Reading (List String)
  | 0, _ => refuse
  | fuel + 1, done => do
    discard blanks
    let w ← word
    discard blanks
    if ← passes "|" then alternatives word fuel (w :: done)
    else
      need ")"
      return (w :: done).reverse

def word : Reading String := do
  let cs ← takeWhile inName
  if cs.isEmpty then refuse else return String.ofList cs

def attributeKind : Reading AttributeKind := do
  if ← passes "CDATA" then return .characters
  else if ← passes "IDREFS" then return .idRefs
  else if ← passes "IDREF" then return .idRef
  else if ← passes "ID" then return .id
  else if ← passes "ENTITY" then return .entity
  else if ← passes "ENTITIES" then return .entities
  else if ← passes "NMTOKENS" then return .words
  else if ← passes "NMTOKEN" then return .word
  else if ← passes "NOTATION" then
    needBlanks
    need "("
    return .format (← alternatives name ((← rest).length + 1) [])
  else
    need "("
    return .oneOf (← alternatives word ((← rest).length + 1) [])

def collapsed (s : String) : String :=
  " ".intercalate ((s.splitOn " ").filter (!·.isEmpty))

def attributeDefault (kind : AttributeKind) : Reading AttributeDefault := do
  if ← passes "#REQUIRED" then return .required
  else if ← passes "#IMPLIED" then return .implied
  else
    let fixed ← passes "#FIXED"
    if fixed then needBlanks
    let text := writtenChunks (← value .default false)
    return .value fixed (if kind = .characters then text else collapsed text)

/-- Remarks what is wrong with a rule, and adds it unless there is one for the attribute. The
identifier of the markup language itself has to be declared as one, default values have to be of
their kind, and an element has one identifier. -/
def addRule (r : AttributeRule) : Reading Unit := do
  if r.name == "xml:id" && r.kind != .id then remark .fault
  if !r.isSound then remark .fault
  let rules := rulesIn (← get).items r.element
  if rules.any (·.name == r.name) then remark .warning
  else
    if r.kind = .id && rules.any (·.kind == .id) then remark .fault
    addItem (.rule r)

def rules (elementName : String) : (fuel : Nat) → Reading Unit
  | 0 => refuse
  | fuel + 1 => do
    if ← passes ">" then return
    let n ← name
    needBlanks
    let kind ← attributeKind
    needBlanks
    let value ← attributeDefault kind
    let gap ← blanks
    if !gap && !(← sees ">") then refuse
    addRule ⟨elementName, n, kind, value⟩
    rules elementName fuel

def attributeList : Reading Unit := do
  need "<!ATTLIST"
  needBlanks
  let n ← name
  discard blanks
  rules n ((← rest).length + 1)

def format : Reading Unit := do
  need "<!NOTATION"
  needBlanks
  let n ← plainName
  needBlanks
  let (publicId, systemId) ← outside true
  discard blanks
  need ">"
  if publicId.isNone && systemId.isNone then refuse
  let known := (← get).items.any fun
    | .format f => f.name == n
    | _ => false
  if known then remark .fault else addItem (.format ⟨n, publicId, systemId⟩)

def subsetItem : Reading Unit := do
  if ← sees "<!EN" then entity
  else if ← sees "<!EL" then element
  else if ← sees "<!A" then attributeList
  else if ← sees "<!N" then format
  else
    match ← remarkNode? with
    | some (.comment body) => addItem (.comment body)
    | some (.instruction t data) => addItem (.instruction t data)
    | _ => refuse

/-- Reads declarations up to the closing bracket, or up to the end inside an entity; `expand` reads
the text of an entity. -/
def subset (expand : Entity → Reading Unit) (inner : Bool) : (fuel : Nat) → Reading Unit
  | 0 => refuse
  | fuel + 1 => do
    discard blanks
    if inner && (← rest).isEmpty then return
    if !inner && (← passes "]") then return
    if ← passes "%" then
      match ← parameterReference with
      | some e => expand e
      | none => pure ()
    else subsetItem
    subset expand inner fuel

/-- Reads the text of an entity between declarations; what is outside is not read. -/
def declarations : (nesting : Nat) → Entity → Reading Unit
  | 0, _ => refuse
  | n + 1, e =>
    match e.value with
    | .literal _ text => do
      opening e (within e text (subset (declarations n) true (text.length + 1)))
      changeStanding e fun v =>
        if v.counted then v else { v with counted := true, size := v.size + e.size }
      count (← standing e).size
    | _ => return

def doctype : Reading Doctype := do
  need "<!DOCTYPE"
  needBlanks
  let n ← name
  discard blanks
  let (publicId, systemId) ← outside false
  if systemId.isSome then modify fun s => { s with incomplete := true }
  discard blanks
  if ← passes "[" then
    modify fun s => { s with declaring := true }
    subset (declarations (nestingLimit + 1)) false ((← rest).length + 1)
    modify fun s => { s with declaring := false }
    discard blanks
  need ">"
  return ⟨n, publicId, systemId, (← get).items.reverse⟩

end TemplateLexer.Markup.Reading
