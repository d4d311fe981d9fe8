import TemplateLexer.Markup.Doctype.Model
import TemplateLexer.Markup.Doctype.Rule
import TemplateLexer.Markup.Printer
/-!
Document type declarations, and the declarations inside them. Formats are written before all other
declarations, which keep their order.
-/

set_option autoImplicit false

namespace TemplateLexer.Markup

/-- What an entity stands for: a literal, as it is written and as it reads, or something outside
the document. What is outside may have a format of its own, which can go without a name. -/
inductive EntityValue where
  | literal (written value : String)
  | outside (publicId : Option String) (systemId : String)
  | formatted (publicId : Option String) (systemId : String) (format : Option String)
  deriving DecidableEq, Repr

structure Entity where
  /-- Whether the entity is for use inside declarations. -/
  parameter : Bool
  name : String
  value : EntityValue
  deriving DecidableEq, Repr

/-- A format that things outside the document may have. -/
structure Format where
  name : String
  publicId : Option String
  systemId : Option String
  deriving DecidableEq, Repr

inductive DoctypeItem where
  | entity (e : Entity)
  | element (name : String) (content : ElementContent)
  | rule (r : AttributeRule)
  | format (f : Format)
  | comment (body : String)
  | instruction (target : String) (data : Option String)
  deriving DecidableEq, Repr

structure Doctype where
  name : String
  publicId : Option String
  systemId : Option String
  items : List DoctypeItem
  deriving DecidableEq, Repr

def printSystemId (s : String) : String := "SYSTEM " ++ inQuotes s

def printPublicId (s : String) : String := "PUBLIC " ++ inQuotes s

namespace EntityValue

def printIds (publicId : Option String) (systemId : String) : String :=
  match publicId with
  | some p => printPublicId p ++ " " ++ inQuotes systemId
  | none => printSystemId systemId

def print : EntityValue → String
  | literal written _ => inQuotes written
  | outside publicId systemId => printIds publicId systemId
  | formatted publicId systemId format =>
    printIds publicId systemId ++ match format with
      | some f => " NDATA " ++ f
      | none => ""

end EntityValue

def Format.print (f : Format) : String :=
  "<!NOTATION " ++ f.name ++ " " ++
    (match f.publicId, f.systemId with
      | some p, some s => printPublicId p ++ " " ++ inQuotes s
      | some p, none => printPublicId p
      | none, some s => printSystemId s
      | none, none => "SYSTEM \"\"") ++ " >"

namespace DoctypeItem

def isDeclaration : DoctypeItem → Bool
  | comment _ | instruction _ _ => false
  | _ => true

def isFormat : DoctypeItem → Bool
  | format _ => true
  | _ => false

def print : DoctypeItem → String
  | entity e =>
    "<!ENTITY " ++ (if e.parameter then "% " else "") ++ e.name ++ " " ++ e.value.print ++ ">\n"
  | element name content => "<!ELEMENT " ++ name ++ " " ++ content.print ++ ">\n"
  | rule r => r.print ++ "\n"
  | format f => f.print ++ "\n"
  | comment body => String.ofList (printComment body)
  | instruction target data => String.ofList (printInstruction target data)

end DoctypeItem

namespace Doctype

def nonEmpty : Option String → Option String
  | some "" => none
  | s => s

/-- The declaration and a line break; without declarations inside, nothing inside is written. -/
def print (d : Doctype) : String :=
  let id := match nonEmpty d.publicId, nonEmpty d.systemId with
    | some p, some s => " PUBLIC \"" ++ p ++ "\" " ++ inQuotes s
    | some p, none => " PUBLIC \"" ++ p ++ "\""
    | none, some s => " SYSTEM " ++ inQuotes s
    | none, none => ""
  let ordered := d.items.filter DoctypeItem.isFormat ++ d.items.filter (!·.isFormat)
  let inside :=
    if d.items.any DoctypeItem.isDeclaration then
      " [\n" ++ String.join (ordered.map DoctypeItem.print) ++ "]>\n"
    else ">\n"
  "<!DOCTYPE " ++ d.name ++ id ++ inside

end Doctype

def entityIn? (items : List DoctypeItem) (parameter : Bool) (name : String) : Option Entity :=
  items.findSome? fun
    | .entity e => if e.parameter == parameter && e.name == name then some e else none
    | _ => none

def ruleIn? (items : List DoctypeItem) (element name : String) : Option AttributeRule :=
  items.findSome? fun
    | .rule r => if r.element == element && r.name == name then some r else none
    | _ => none

def rulesIn (items : List DoctypeItem) (element : String) : List AttributeRule :=
  items.filterMap fun
    | .rule r => if r.element == element then some r else none
    | _ => none

end TemplateLexer.Markup
