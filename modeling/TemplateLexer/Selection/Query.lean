import TemplateLexer.Failure
import TemplateLexer.Markup.Chars
import TemplateLexer.Policy
/-!
Selections as queries in the language of paths, as a report or a tool for documents shows them.
-/

set_option autoImplicit false

namespace TemplateLexer.Query

/-- A text as a literal. One that holds both kinds of quotes is put together from parts without
single quotes. -/
def literal (s : String) : String :=
  if !s.contains '\'' then "'" ++ s ++ "'"
  else if !s.contains '"' then "\"" ++ s ++ "\""
  else
    let parts := (s.toList.splitOn '\'').map String.ofList
    "concat(" ++ ", \"'\", ".intercalate (parts.map fun part => "'" ++ part ++ "'") ++ ")"

/-- Any value as a literal. A collection is put in quotes as a message shows it, in double ones if a
single quote is among its members. -/
def literalOf : Json → Except Failure String
  | .str s => .ok (literal s)
  | j =>
    match j.members? with
    | none => .error .badType
    | some members =>
      if !(Json.str "'").isIn members then .ok ("'" ++ j.display ++ "'")
      else if !(Json.str "\"").isIn members then .ok ("\"" ++ j.display ++ "\"")
      else .error .notAnObject

def comparison (place uriLiteral : String) : String :=
  "namespace-uri(" ++ place ++ ") = " ++ uriLiteral

def anyOf (tests : List String) : String :=
  if tests.isEmpty then "" else "(" ++ " or ".intercalate tests ++ ")"

def namespaceTest (uris places : List String) : String :=
  anyOf (uris.flatMap fun uri => places.map fun place => comparison place (literal uri))

def membersOf (j : Json) : Except Failure (List Json) :=
  match j.members? with
  | some members => .ok members
  | none => .error .badType

def namespaceTestOf (uris places : Json) : Except Failure String := do
  let tests ← (← membersOf uris).mapM fun uri => do
    (← membersOf places).mapM fun place => do
      return comparison place.bare (← literalOf uri)
  return anyOf tests.flatten

def expressionTest : String := "(contains(., '\x7b%') or contains(., '%\x7d'))"

/-- Holds outside shielded content; the name of what shields is given by literals. -/
def rawTest (uriLiteral baseLiteral : String) : String :=
  "not(ancestor::*[namespace-uri() = " ++ uriLiteral ++ " and local-name() = " ++ baseLiteral
    ++ "])"

/-- The tests that queries are made of: for a helper, for a helper around, and for content that is
not shielded. -/
structure Tests where
  helper : String
  parentHelper : String
  raw : String

namespace Tests

def of (uris : List Json) (p : Policy) : Except Failure Tests := do
  let helper ← namespaceTestOf (.arr uris) (.arr [.str "."])
  let parentHelper ← namespaceTestOf (.arr uris) (.arr [.str "parent::*"])
  return ⟨helper, parentHelper, rawTest (← literalOf p.rawUri) (← literalOf p.rawBase)⟩

def nodes (t : Tests) : String :=
  if t.helper.isEmpty then "/*"
  else
    "/* | //*[" ++ t.helper ++ " and " ++ t.raw ++ "] | //@*[" ++ t.helper ++ "]/parent::*["
      ++ t.raw ++ "]"

def helperAttributes (t : Tests) : String :=
  if t.helper.isEmpty then "" else "@*[" ++ t.helper ++ "]"

def elementHelperExpressions (t : Tests) : String :=
  if t.helper.isEmpty then "@*[" ++ expressionTest ++ "]"
  else "@*[not(" ++ t.helper ++ ") and " ++ expressionTest ++ "]"

/-- The sites that a node owns: attributes below it, its own ones unless it is a helper, and
elements with text. -/
def nodeExpressions (t : Tests) : String :=
  let outside := t.raw ++ " and " ++ expressionTest
  let own := if t.parentHelper.isEmpty then "@*[" ++ outside ++ "]"
    else "@*[not(" ++ t.parentHelper ++ ") and " ++ outside ++ "]"
  "descendant::*//@*[" ++ outside ++ "] | " ++ own ++ " | descendant-or-self::*//text()["
    ++ outside ++ "]/parent::*"

end Tests

/-- Whether a text has a character that no document has. -/
def isForeign : Json → Bool
  | .str s => s.toList.any fun c => !Markup.isChar c.toNat
  | _ => false

def isTorn : Json → Bool
  | .str _ => false
  | j => j.display.contains '\''

def check (values : List Json) : Except Failure Unit :=
  if values.any isForeign then .error .badValue
  else if values.any isTorn then .error .badQuery
  else .ok ()

end TemplateLexer.Query
