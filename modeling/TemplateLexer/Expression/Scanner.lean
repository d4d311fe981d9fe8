import TemplateLexer.Expression.Run
/-!
A scanner for text that comes in several pieces. It keeps the number of open delimiters and the
line on which the next run starts; markup between the pieces only moves the line.
-/

set_option autoImplicit false

namespace TemplateLexer

def lineBreaks (cs : List Char) : Nat := cs.count '\n'

@[simp] theorem lineBreaks_append (xs ys : List Char) :
    lineBreaks (xs ++ ys) = lineBreaks xs + lineBreaks ys := List.count_append

/-- A classified run and the line it starts on. -/
structure Run where
  kind : RunKind
  value : String
  line : Int
  deriving DecidableEq, Repr

structure Scanner where
  depth : Nat
  line : Int
  deriving DecidableEq, Repr

namespace Scanner

def start (line : Int) : Scanner := ⟨0, line⟩

/-- The depth after a run; closing at depth zero is ignored. -/
def level (depth : Nat) : RunKind → Nat
  | .opens => depth + 1
  | .closes => depth - 1
  | _ => depth

/-- Moves past markup that is not split. -/
def advance (s : Scanner) (markup : List Char) : Scanner :=
  { s with line := s.line + lineBreaks markup }

def pass (s : Scanner) (p : Piece) : Scanner :=
  { depth := level s.depth p.kind, line := s.line + lineBreaks p.text }

def runs (s : Scanner) : List Piece → List Run × Scanner
  | [] => ([], s)
  | p :: ps =>
    let (rs, s') := (s.pass p).runs ps
    (⟨p.kind, String.ofList p.text, s.line⟩ :: rs, s')

def feed (s : Scanner) (text : String) : List Run × Scanner :=
  s.runs (Piece.split text.toList)

end Scanner

def splitText (text : String) (line : Int) : List Run :=
  ((Scanner.start line).feed text).1

end TemplateLexer
