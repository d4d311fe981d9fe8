import TemplateLexer.Json.Writer
import TemplateLexer.Record

set_option autoImplicit false

namespace TemplateLexer

namespace Record

def field (key : String) : Record → Record
  | token _ _ fields => (lookupKey key fields).getD (.value .null)
  | _ => .value .null

def displayField : Record → String
  | value (.arr items) => Json.displayRow items
  | value j => j.display
  | stream _ _ tokens => TokenStream.describeFrozen tokens.length
  | token shape _ _ => shape.name

def bareField : Record → String
  | value (.str s) => s
  | r => r.displayField

def count? : Record → Option Nat
  | value (.arr items) => some items.length
  | value (.obj entries) => some entries.length
  | value (.str s) => some s.length
  | stream _ _ tokens => some tokens.length
  | _ => none

def isFilled : Record → Bool
  | value j => j.truthy
  | stream _ _ tokens => !tokens.isEmpty
  | token _ _ _ => true

def shownWhole : Nat := 20

/-- A field inside a message, with seventeen characters of a text that is too long. Other values may
not be long. -/
def displayShort (r : Record) : Except Failure String :=
  match count? r, r with
  | none, _ => .error .badType
  | some n, r =>
    if n ≤ shownWhole then .ok r.displayField
    else
      match r with
      | value (.str s) => .ok (Text.quoted (String.ofList (s.toList.take 17) ++ "..."))
      | _ => .error .badType

def display (r : Record) : Except Failure String :=
  match r with
  | token shape kind _ =>
    let path := (r.field "path").displayField
    let line := (r.field "lineno").bareField
    match shape with
    | .property =>
      .ok ("PropertyToken(" ++ kind.name ++ ", " ++ (r.field "value").displayField ++ ")")
    | .node =>
      match (r.field "children").count? with
      | some n =>
        .ok ("NodeToken(" ++ kind.name ++ ", " ++ path ++ ", " ++ line ++ ", children="
          ++ toString n ++ ")")
      | none => .error .badType
    | .helper =>
      .ok ("HelperToken(" ++ kind.name ++ ", \x7b" ++ (r.field "namespace").bareField ++ "\x7d"
        ++ (r.field "name").bareField ++ ", " ++ line ++ ")")
    | .expression => .ok ("ExpressionToken(" ++ path ++ ", " ++ line ++ ")")
    | .content => do
      let shown ← (r.field "value").displayShort
      return "ExpressionContentToken(" ++ kind.name ++ ", " ++ shown ++ ", " ++ line ++ ")"
  | _ => .error .badType

/-- The line, path and file of a token; properties and contents have no path. -/
def place (r : Record) : Record × Record × Record :=
  (r.field "lineno", r.field "path", r.field "source_file")

def placeText (r : Record) : String :=
  let (line, path, file) := r.place
  let told (r : Record) : String := if r.isFilled then r.bareField else ""
  TemplateLexer.placeText (told file) (told path) line.bareField

end Record

end TemplateLexer
