import TemplateLexer.Failure
import TemplateLexer.LogEntry

set_option autoImplicit false

namespace TemplateLexer

abbrev Logged := ExceptT Failure (StateM (List LogEntry))

namespace Logged

def log (e : LogEntry) : Logged Unit := modify (· ++ [e])

def fail {α : Type} (f : Failure) : Logged α := throw f

def ofExcept {α : Type} : Except Failure α → Logged α
  | .ok a => pure a
  | .error f => fail f

def run {α : Type} (m : Logged α) : Except Failure α × List LogEntry := StateT.run m []

end Logged

end TemplateLexer
