import TemplateLexer.Markup.Reader.Input

set_option autoImplicit false

namespace TemplateLexer.Markup.Reading

/-- What the declaration of a document says. -/
structure Heading where
  version : String
  encoding : Option String
  standalone : Bool
  deriving DecidableEq, Repr

/-- The heading of a document that has no declaration. -/
def Heading.plain : Heading := ⟨"1.0", none, false⟩

/-- What becomes of the name of an encoding that a document declares. -/
inductive Verdict where
  | accepted
  | doubted
  | refused
  deriving DecidableEq, Repr

def equals : Reading Unit := do
  discard blanks
  need "="
  discard blanks

def quotedValue (p : Char → Bool) : Reading (List Char) := do
  let q ← needQuote
  let value ← takeWhile p
  need (String.ofList [q])
  return value

/-- A digit, a point and digits. A version that begins as the first one is only remarked. -/
def version : Reading String := do
  equals
  let value ← quotedValue fun c => c.isDigit || c == '.'
  match value with
  | d :: '.' :: rest =>
    if !d.isDigit || rest.contains '.' then refuse
    if value != ['1', '.', '0'] then
      if d == '1' then remark .warning else refuse
    return String.ofList value
  | _ => refuse

def encodingName (judge : String → Verdict) : Reading String := do
  equals
  let q ← needQuote
  let value ← takeWhile fun c => c.isAlphanum || c == '.' || c == '_' || c == '-'
  match value with
  | c :: _ => if !c.isAlpha then refuse
  | [] => refuse
  need (String.ofList [q])
  match judge (String.ofList value) with
  | .accepted => return String.ofList value
  | .doubted => do
    remark .warning
    return String.ofList value
  | .refused => refuse

def standalone : Reading Bool := do
  equals
  let value ← quotedValue Char.isAlpha
  if value == "yes".toList then return true
  else if value == "no".toList then return false
  else refuse

def startsHeading (cs : List Char) : Bool :=
  match cs with
  | '<' :: '?' :: 'x' :: 'm' :: 'l' :: c :: _ => isBlank c
  | _ => false

/-- The version comes first; what follows needs a blank before it. -/
def heading (judge : String → Verdict) : Reading Heading := do
  if !startsHeading (← rest) then return .plain
  need "<?xml"
  discard blanks
  need "version"
  let v ← version
  let gap ← blanks
  let mut gap := gap
  let mut name : Option String := none
  if gap && (← passes "encoding") then
    name := some (← encodingName judge)
    gap ← blanks
  let mut alone := false
  if gap && (← passes "standalone") then
    alone := ← standalone
    discard blanks
  need "?>"
  return ⟨v, name, alone⟩

/-- The body of a comment; two hyphens stand only at its end. -/
def comment : Reading String := do
  need "<!--"
  let body ← takeTo fun cs => "--".toList.isPrefixOf cs
  need "-->"
  return String.ofList (plainBreaks body)

/-- The target of an instruction. The name of the markup language itself is for declarations of
documents only, and other spellings of it are faults, as are colons; names that begin with it are
remarked unless they are of the known ones. -/
def target : Reading String := do
  let n ← name
  if n == "xml" then refuse
  if (n.toList.take 3).map Char.toLower == ['x', 'm', 'l'] then
    if n.length == 3 then
      remark .fault
      return n
    if n == "xml-stylesheet" || n == "xml-model" then return n
    remark .warning
  if n.contains ':' then remark .fault
  return n

def instruction : Reading (String × Option String) := do
  need "<?"
  let t ← target
  if ← passes "?>" then return (t, none)
  needBlanks
  return (t, some (← takeUntil "?>"))

def remarkNode? : Reading (Option Node) := do
  if ← sees "<!--" then return some (.comment (← comment))
  else if ← sees "<?" then
    let (t, data) ← instruction
    return some (.instruction t data)
  else return none

def misc : (fuel : Nat) → (done : List Node) → Reading (List Node)
  | 0, done => return done.reverse
  | fuel + 1, done => do
    discard blanks
    match ← remarkNode? with
    | some n => misc fuel (n :: done)
    | none => return done.reverse

end TemplateLexer.Markup.Reading
