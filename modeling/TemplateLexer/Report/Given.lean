import TemplateLexer.Failure

set_option autoImplicit false

namespace TemplateLexer

namespace ReportKind

/-- What a report of a kind is made of, in order; the first one has to be given. Kinds without
names take any values in order. -/
def parts : ReportKind → List String
  | general | streamFrozen => []
  | lexing | malformedExpression => ["message", "path", "lineno", "source_file"]
  | unresolvedPlaceholder => ["node_id", "path", "lineno", "source_file"]
  | ambiguousNamespace => ["namespace"]
  | documentLoad => ["message", "lineno", "source_file"]

end ReportKind

namespace Report

def joined : List Json → Json
  | [] => .str ""
  | [j] => j
  | several => .str (Json.displayRow several)

/-- The values by name. There may not be more than there are parts, nor two of one name, nor
one of another name. -/
def named (parts : List String) (values : List Json) (entries : List (String × Json)) :
    Except Failure (List (String × Json)) :=
  let ordered := parts.zip values
  let misplaced := entries.any fun (k, _) => !parts.contains k || (lookupKey k ordered).isSome
  if parts.length < values.length || misplaced then .error .badType else .ok (ordered ++ entries)

def given (kind : ReportKind) (values : List Json) (entries : List (String × Json)) :
    Except Failure Report :=
  match kind.parts with
  | [] =>
    if entries.isEmpty then .ok ⟨kind, joined values, .null, .null, .null⟩ else .error .badType
  | subject :: others => do
    let all ← named (subject :: others) values entries
    let value (key : String) : Json := (lookupKey key all).getD .null
    if (lookupKey subject all).isNone then .error .badType
    else .ok ⟨kind, value subject, value "path", value "lineno", value "source_file"⟩

end Report

end TemplateLexer
