import TemplateLexer.Expression.Scanner
import TemplateLexer.Failure

set_option autoImplicit false

namespace TemplateLexer

/-- Whether a value holds a delimiter: a text inside it, a collection among its members. What is
empty holds none. -/
def delimiterIn : Json → Except Failure Bool
  | .str s => .ok (hasDelimiter s.toList)
  | j =>
    match j.members? with
    | some l => .ok ((Json.str "\x7b%").isIn l || (Json.str "%\x7d").isIn l)
    | none => if j.truthy then .error .badType else .ok false

/-- A run and the line that it shows. -/
structure ShownRun where
  run : Run
  line : Json

/-- A scanner and the line that it shows. -/
structure GivenScanner where
  scanner : Scanner
  line : Json

namespace GivenScanner

def start (line : Json) : GivenScanner := ⟨.start (line.number?.getD 0), line⟩

def moved (scanner : Scanner) : GivenScanner := ⟨scanner, .int scanner.line⟩

/-- A scanner only moves from a line that is a number. -/
def check (s : GivenScanner) : Except Failure Unit :=
  if s.line.number?.isSome then .ok () else .error .badType

def shown (s : GivenScanner) : List Run → List ShownRun
  | [] => []
  | r :: rest => ⟨r, s.line⟩ :: rest.map fun r => ⟨r, .int r.line⟩

def feed (s : GivenScanner) : Json → Except Failure (List ShownRun × GivenScanner)
  | .str text =>
    match s.scanner.feed text with
    | ([], _) => .ok ([], s)
    | (runs, next) => do
      s.check
      return (s.shown runs, moved next)
  | .arr [] | .obj [] => .ok ([], s)
  | _ => .error .badType

def advance (s : GivenScanner) (markup : String) : Except Failure GivenScanner := do
  s.check
  return moved (s.scanner.advance markup.toList)

end GivenScanner

end TemplateLexer
