import TemplateLexer.Lexer
import TemplateLexer.Policy.Ambient
/-!
Lexers, which hold settings, and sessions in which settings come into force and lexers are made and
used.
-/

set_option autoImplicit false

namespace TemplateLexer

structure Lexer where
  settings : Settings

namespace Lexer

/-- A lexer for some settings; without any it takes those in force for good. -/
def create (given : Option Settings) : Ambient Lexer := do return ⟨← Ambient.settingsOr given⟩

def classify (given : Option Settings) (root : Markup.Element) : Ambient (List String) := do
  let settings ← Ambient.settingsOr given
  Ambient.lift (settings.policy.classify root)

def select (given : Option Settings) (uris : List String) : Ambient Selector := do
  let settings ← Ambient.settingsOr given
  Ambient.lift (Logged.ofExcept (Selector.of settings.policy uris))

def scan (l : Lexer) (d : Markup.Document) (file : Option String) : Ambient LexedStream := do
  let uris ← classify (some l.settings) d.root
  let selector ← select (some l.settings) uris
  let p ← Ambient.lift (Pass.prepare l.settings.policy selector d file)
  Ambient.lift (Document.lexFrom p d file)

end Lexer

def Ambient.lex (given : Option Settings) (d : Markup.Document) (file : Option String) :
    Ambient LexedStream := do
  (← Lexer.create given).scan d file

/-- The settings in force, and all lexers, oldest first. -/
structure Session where
  active : Active Settings
  lexers : List Lexer

namespace Session

def start : Session := ⟨.start .standard, []⟩

/-- Settings that are entered are left in the end, by themselves or when an exception is raised. -/
inductive Step where
  | set (settings : Settings)
  | reset
  | enter (settings : Settings)
  | exit
  | raise
  | create (given : Option Settings)
  | scan (lexer : Nat) (d : Markup.Document) (file : Option String)
  | lex (given : Option Settings) (d : Markup.Document) (file : Option String)

inductive Answer where
  | done
  | lexer (l : Lexer)
  | stream (s : LexedStream)

def Step.act (lexers : List Lexer) : Step → Ambient Answer
  | set settings => do Ambient.put settings; return .done
  | reset => do Ambient.put .standard; return .done
  | enter settings => do Ambient.enter settings; return .done
  | exit => do Ambient.leave; return .done
  | raise => do Ambient.leave; return .done
  | create given => do return .lexer (← Lexer.create given)
  | scan i d file =>
    match lexers[i]? with
    | some l => do return .stream (← l.scan d file)
    | none => throw .noSuchName
  | lex given d file => do return .stream (← Ambient.lex given d file)

abbrev Outcome := Except Failure Answer × List LogEntry

def Outcome.made : Outcome → List Lexer
  | (.ok (.lexer l), _) => [l]
  | _ => []

def step (s : Session) (t : Step) : Outcome × Session :=
  let ((r, active), log) := (t.act s.lexers).run s.active
  ((r, log), ⟨active, s.lexers ++ Outcome.made (r, log)⟩)

def run (s : Session) : List Step → List Outcome × Session
  | [] => ([], s)
  | t :: ts =>
    let (o, next) := s.step t
    let (os, last) := next.run ts
    (o :: os, last)

def after (ts : List Step) : Session := (start.run ts).2

end Session

end TemplateLexer
