import TemplateLexer.Json.Display

set_option autoImplicit false

namespace TemplateLexer

/-- Where in a template something is. -/
structure Spot where
  path : Option String
  line : Option Int
  file : Option String
  deriving DecidableEq, Repr

def Spot.unknown : Spot := ⟨none, none, none⟩

/-- The kinds of reports; each kind but the general one refines another. -/
inductive ReportKind where
  | general
  | lexing
  | malformedExpression
  | unresolvedPlaceholder
  | ambiguousNamespace
  | documentLoad
  | streamFrozen
  deriving DecidableEq, Repr

namespace ReportKind

def name : ReportKind → String
  | general => "PlantillaError"
  | lexing => "LexError"
  | malformedExpression => "MalformedExpressionError"
  | unresolvedPlaceholder => "UnresolvedPlaceholderError"
  | ambiguousNamespace => "AmbiguousHelperNamespaceError"
  | documentLoad => "DocumentLoadError"
  | streamFrozen => "StreamFrozenError"

def all : List ReportKind :=
  [general, lexing, malformedExpression, unresolvedPlaceholder, ambiguousNamespace, documentLoad,
    streamFrozen]

def named? (s : String) : Option ReportKind := all.find? (·.name == s)

def lineage : ReportKind → List ReportKind
  | general => [general]
  | lexing => [lexing, general]
  | malformedExpression => [malformedExpression, lexing, general]
  | unresolvedPlaceholder => [unresolvedPlaceholder, lexing, general]
  | ambiguousNamespace => [ambiguousNamespace, lexing, general]
  | documentLoad => [documentLoad, general]
  | streamFrozen => [streamFrozen, general]

def hasPath (k : ReportKind) : Bool := k.lineage.contains lexing

def hasLine (k : ReportKind) : Bool := k.hasPath || k == documentLoad

end ReportKind

/-- A report: its subject is the message, the id of a placeholder or a namespace. -/
structure Report where
  kind : ReportKind
  subject : Json
  path : Json
  line : Json
  file : Json
  deriving Repr

def withoutColons (cs : List Char) : List Char := (cs.reverse.dropWhile (· == ':')).reverse

def placeText (file path line : String) : String :=
  (if file.isEmpty then "" else file ++ ":") ++ line ++ if path.isEmpty then "" else " " ++ path

namespace Report

def atSpot (kind : ReportKind) (subject : Json) (s : Spot) : Report :=
  ⟨kind, subject, .ofOption .str s.path, .ofOption .int s.line, .ofOption .str s.file⟩

/-- The message without the spot. -/
def message (r : Report) : Json :=
  match r.kind with
  | .unresolvedPlaceholder => .str ("Placeholder '" ++ r.subject.bare ++ "' has no tokenized node")
  | .ambiguousNamespace => .str ("Namespace '" ++ r.subject.bare ++ "' cannot carry helpers")
  | _ => r.subject

/-- The file and the line, each before a colon; the last colons give way to a blank. -/
def lead (r : Report) : String :=
  let file := if r.file.truthy then r.file.bare ++ ":" else ""
  let line := match r.line with
    | .null => ""
    | n => n.bare ++ ":"
  let both := file ++ line
  if both.isEmpty then "" else String.ofList (withoutColons both.toList ++ [' '])

def trail (r : Report) : String := if r.path.truthy then " [" ++ r.path.bare ++ "]" else ""

def text (r : Report) : String := r.lead ++ r.message.bare ++ r.trail

end Report

end TemplateLexer
