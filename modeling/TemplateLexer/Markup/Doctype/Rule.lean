import TemplateLexer.Markup.Chars

set_option autoImplicit false

namespace TemplateLexer.Markup

/-- The text between quotes: double ones unless the text holds only double ones. -/
def inQuotes (s : String) : String :=
  if s.contains '"' then
    if s.contains '\'' then "\"" ++ s.replace "\"" "&quot;" ++ "\""
    else "'" ++ s ++ "'"
  else "\"" ++ s ++ "\""

inductive AttributeKind where
  | characters
  | id
  | idRef
  | idRefs
  | entity
  | entities
  | word
  | words
  /-- The name of one of some formats. -/
  | format (names : List String)
  | oneOf (listed : List String)
  deriving DecidableEq, Repr

namespace AttributeKind

def print : AttributeKind → String
  | characters => "CDATA"
  | id => "ID"
  | idRef => "IDREF"
  | idRefs => "IDREFS"
  | entity => "ENTITY"
  | entities => "ENTITIES"
  | word => "NMTOKEN"
  | words => "NMTOKENS"
  | format names => "NOTATION (" ++ " | ".intercalate names ++ ")"
  | oneOf listed => "(" ++ " | ".intercalate listed ++ ")"

def isName (s : String) : Bool :=
  match s.toList with
  | [] => false
  | c :: cs => startsName c && cs.all inName

def isWord (s : String) : Bool := !s.isEmpty && s.toList.all inName

def admits (k : AttributeKind) (value : String) : Bool :=
  match k with
  | characters => true
  | id | idRef | entity | format _ => isName value
  | idRefs | entities => (value.splitOn " ").all isName
  | word | oneOf _ => isWord value
  | words => (value.splitOn " ").all isWord

end AttributeKind

inductive AttributeDefault where
  | required
  | implied
  | value (fixed : Bool) (text : String)
  deriving DecidableEq, Repr

/-- What is declared of an attribute of the elements with a name, as the names are written. -/
structure AttributeRule where
  element : String
  name : String
  kind : AttributeKind
  default : AttributeDefault
  deriving DecidableEq, Repr

namespace AttributeRule

def isSound (r : AttributeRule) : Bool :=
  match r.default with
  | .value _ text => r.kind.admits text
  | _ => true

def printDefault (r : AttributeRule) : String :=
  match r.default with
  | .required => " #REQUIRED"
  | .implied => " #IMPLIED"
  | .value fixed text =>
    (if fixed then " #FIXED" else "") ++ if r.isSound then " " ++ inQuotes text else ""

/-- The declaration; a default value that is not sound is left out. -/
def print (r : AttributeRule) : String :=
  "<!ATTLIST " ++ r.element ++ " " ++ r.name ++ " " ++ r.kind.print ++ r.printDefault ++ ">"

end AttributeRule

end TemplateLexer.Markup
