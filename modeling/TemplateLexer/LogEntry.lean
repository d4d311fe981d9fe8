/-!
Log lines. A line names its level, the logger and the message; every logger is below one root.
-/

set_option autoImplicit false

namespace TemplateLexer

inductive LogEntry where
  | loading (path : String)
  | ignored (uri : String)
  | classified (helpers : Nat)
  | lexing (file : Option String) (helpers nodes : Nat)
  | lexed (tokens : Nat)
  deriving DecidableEq, Repr

namespace LogEntry

def root : String := "plantilla"

/-- A name below the root; one that is there already is kept. -/
def loggerName (name : String) : String :=
  if name = root ∨ (root ++ ".").isPrefixOf name then name else root ++ "." ++ name

def logger : LogEntry → String
  | loading _ => loggerName "document"
  | ignored _ | classified _ => loggerName "namespaces"
  | lexing _ _ _ | lexed _ => loggerName "lexer.core"

def level : LogEntry → String
  | ignored _ => "WARNING"
  | _ => "DEBUG"

def message : LogEntry → String
  | loading path => "Loading template " ++ path
  | ignored uri => "Ignoring helper namespace " ++ uri ++ ": it is a non-helper namespace"
  | classified helpers => "Classified " ++ toString helpers ++ " helper namespace(s)"
  | lexing file helpers nodes =>
    let name := match file with
      | none | some "" => "<string>"
      | some f => f
    "Lexing " ++ name ++ ": " ++ toString helpers ++ " helper namespace(s), "
      ++ toString nodes ++ " node(s)"
  | lexed tokens => "Lexed " ++ toString tokens ++ " token(s)"

def line (e : LogEntry) : String := e.level ++ " " ++ e.logger ++ " " ++ e.message

end LogEntry

end TemplateLexer
