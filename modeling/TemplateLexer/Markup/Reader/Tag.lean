import TemplateLexer.Markup.Identifier
import TemplateLexer.Markup.Reader.Value
import TemplateLexer.Markup.Scope
import TemplateLexer.Markup.Uri
/-!
Reads tags. Attributes have each name once; qualifiers have to be bound, and namespaces have to be
references to resources. Rules for attributes say how values are read, and they add declarations of
namespaces to a tag, but no other attributes.
-/

set_option autoImplicit false

namespace TemplateLexer.Markup.Reading

/-- A name as it stands in a tag: a qualifier, if there is one, and the rest. -/
structure TagName where
  qualifier : Option String
  base : String
  deriving DecidableEq, Repr

def TagName.written (n : TagName) : String :=
  match n.qualifier with
  | some q => q ++ ":" ++ n.base
  | none => n.base

/-- Splits a name at its first colon, if parts of names stand at both sides of it. More colons stay
in the rest; other uses of colons are no qualifiers. Both are faults, which the last component
tells. -/
def splitName (n : List Char) : TagName × Bool :=
  let (q, rest) := (n.takeWhile (· != ':'), n.dropWhile (· != ':'))
  match rest with
  | [] => (⟨none, String.ofList n⟩, false)
  | _ :: base =>
    if isPart q && (base.head?.map startsPart).getD false then
      (⟨some (String.ofList q), String.ofList base⟩, base.contains ':')
    else (⟨none, String.ofList n⟩, true)

def breaksOff (base : List Char) : Bool :=
  match base.dropWhile (· != ':') with
  | _ :: c :: _ => !startsName c
  | _ => false

def tagName : Reading TagName := do
  let (n, isFaulty) := splitName (← name).toList
  if isFaulty then remark .fault
  if n.qualifier.isSome && breaksOff n.base.toList then refuse
  return n

/-- An attribute as it is written. -/
structure WrittenAttribute where
  name : TagName
  value : List Chunk

def declares? (n : TagName) : Option (Option String) :=
  if n.qualifier == some "xmlns" then some (some n.base)
  else if n.qualifier.isNone && n.base == "xmlns" then some none
  else none

def plainText (value : List Chunk) : String :=
  String.join (value.map fun
    | .text s => s
    | .reference _ => "")

def writtenAttribute (elementName : String) : Reading WrittenAttribute := do
  let n ← tagName
  let rule := ruleIn? (← get).items elementName n.written
  equals
  let use := if (declares? n).isSome then ValueUse.namespaceName else .ordinary
  let value ← value use (rule.any (·.kind != .characters))
  if n.qualifier == some "xml" && n.base == "space" then
    if value != [.text "default"] && value != [.text "preserve"] then remark .warning
  return ⟨n, value⟩

/-- Checks the namespace of a declaration: a reference to a resource; the one that names without
qualifiers get should be absolute. -/
def checkUri (qualifier : Option String) (uri : String) : Reading Unit := do
  if !Uri.isReference uri then remark .fault
  else if qualifier.isNone && !Uri.isAbsolute uri then remark .warning

def declaration (qualifier : Option String) (uri : String) : Reading (Option Declaration) := do
  if qualifier == some "xml" then
    if uri != xmlUri then remark .fault
    return none
  if uri == xmlUri || qualifier == some "xmlns" || uri == xmlnsUri then
    remark .fault
    return none
  match qualifier with
  | some _ => do
    if uri.isEmpty then
      remark .fault
      return none
    checkUri qualifier uri
    return some ⟨qualifier, uri⟩
  | none => do
    if !uri.isEmpty then checkUri qualifier uri
    return some ⟨qualifier, uri⟩

/-- Declarations and other attributes of a tag, each newest first. -/
structure TagParts where
  declarations : List Declaration
  attributes : List WrittenAttribute

def sortAttribute (parts : TagParts) (a : WrittenAttribute) : Reading TagParts := do
  match declares? a.name with
  | some q => do
    match ← declaration q (plainText a.value) with
    | some d =>
      if parts.declarations.any (·.qualifier == d.qualifier) then refuse
      else return { parts with declarations := d :: parts.declarations }
    | none => return parts
  | none => return { parts with attributes := a :: parts.attributes }

/-- The attributes of a tag; blanks separate them. -/
def tagParts (elementName : String) : (fuel : Nat) → TagParts → Reading TagParts
  | 0, _ => refuse
  | fuel + 1, parts => do
    if (← sees ">") || (← sees "/>") then return parts
    let parts ← sortAttribute parts (← writtenAttribute elementName)
    let gap ← blanks
    if (← sees ">") || (← sees "/>") then return parts
    if !gap then refuse
    tagParts elementName fuel parts

def givenAttributes (elementName : String) : Reading (List (TagName × String)) := do
  return (rulesIn (← get).items elementName).reverse.filterMap fun r =>
    match r.default with
    | .value _ text => some ((splitName r.name.toList).1, text)
    | _ => none

/-- Adds the declarations that rules give, unless the tag has its own ones. -/
def withGiven (given : List (TagName × String)) (own : List Declaration) : List Declaration :=
  given.foldl (fun ds (n, uri) =>
    match declares? n with
    | some q =>
      if q == some "xml" || ds.any (·.qualifier == q) then ds else ds ++ [⟨q, uri⟩]
    | none => ds) own

/-- The name that a qualifier and a base make below some tags; an unbound qualifier is a fault and
stays part of the base. -/
def resolve (tags : List Tag) (forElement : Bool) (n : TagName) : Reading Name :=
  match n.qualifier with
  | some "xml" => return ⟨some "xml", some xmlUri, n.base⟩
  | some q =>
    match binding? (some q) tags with
    | some d => return ⟨some q, some d.uri, n.base⟩
    | none => do
      remark .fault
      return .bare n.written
  | none =>
    if forElement then
      match binding? none tags with
      | some d => return if d.uri.isEmpty then .bare n.base else ⟨none, some d.uri, n.base⟩
      | none => return .bare n.base
    else return .bare n.base

def checkDistinct : List (WrittenAttribute × Name) → Reading Unit
  | [] => pure ()
  | (a, n) :: rest => do
    if rest.any fun (b, _) => a.name == b.name then refuse
    if n.uri.isSome && rest.any fun (_, m) => n.uri == m.uri && n.base == m.base then
      remark .fault
    checkDistinct rest

def checkGiven (tags : List Tag) (given : List (TagName × String)) : Reading Unit :=
  given.forM fun (n, _) => do
    if (declares? n).isNone then discard (resolve tags false n)

/-- Checks the identifiers that a tag gives to its element: no other element has them, and one in
the sense of the markup language itself is a plain name. References make a value no identifier, and
inside entities there are none. -/
def checkIds (elementName : String) (attributes : List (WrittenAttribute × Name)) :
    Reading Unit := do
  if !(← get).outer.isEmpty then return
  for (a, n) in attributes do
    match a.value with
    | [.text v] => do
      let isOwn := n.qualifier == some "xml" && n.base == "id"
      let rule := ruleIn? (← get).items elementName a.name.written
      if isOwn && !isIdentifier v then remark .fault
      if isOwn || rule.any (·.kind == .id) then
        if (← get).ids.contains v then remark .fault
        else if !v.isEmpty then modify fun s => { s with ids := v :: s.ids }
    | _ => pure ()

def openingTag (above : List Tag) : Reading (TagName × Tag) := do
  need "<"
  let n ← tagName
  discard blanks
  let parts ← tagParts n.written ((← rest).length + 1) ⟨[], []⟩
  let given ← givenAttributes n.written
  let bare : Tag :=
    ⟨.bare n.base, withGiven given parts.declarations.reverse, [], 0⟩
  let tags := bare :: above
  let named ← parts.attributes.reverse.mapM fun a => do
    return (a, ← resolve tags false a.name)
  checkDistinct named
  checkGiven tags given
  let elementName ← resolve tags true n
  checkIds n.written named
  let attributes := named.map fun (a, m) => ⟨m, a.value⟩
  return (n, { bare with name := elementName, attributes, line := (← get).here.line })

def repeats (written : List Char) (cs : List Char) : Bool :=
  written.isPrefixOf cs &&
    match (cs.drop written.length).head? with
    | some c => c == '>' || isBlank c
    | none => false

/-- A tag that closes an element of a name. Only a name that differs from it is looked at closely.
-/
def closingTag (opened : TagName) : Reading Unit := do
  need "</"
  let n ← if opened.qualifier.isSome && !repeats opened.written.toList (← rest) then do
      match (← rest).head?.map startsName with
      | some true => pure (some (← tagName).written)
      | _ => pure none
    else takeFront name?
  discard blanks
  let closed ← passes ">"
  if !closed || n != some opened.written then refuse

end TemplateLexer.Markup.Reading
