import TemplateLexer.Logged
import TemplateLexer.Policy.Active
import TemplateLexer.Policy.Settings

set_option autoImplicit false

namespace TemplateLexer

abbrev Ambient := ExceptT Failure (StateT (Active Settings) (StateM (List LogEntry)))

namespace Ambient

variable {α : Type}

def run (m : Ambient α) (a : Active Settings) :
    (Except Failure α × Active Settings) × List LogEntry :=
  StateT.run (StateT.run (ExceptT.run m) a) []

/-- Does what has no use for the settings in force. -/
def lift (m : Logged α) : Ambient α := fun a log =>
  let (r, log) := m log
  ((r, a), log)

def inForce : Ambient Settings := do return (← getThe (Active Settings)).current

def settingsOr : Option Settings → Ambient Settings
  | some settings => return settings
  | none => inForce

def put (settings : Settings) : Ambient Unit := modify (Active.set · settings)

def enter (settings : Settings) : Ambient Unit := modify (Active.enter · settings)

def leave : Ambient Unit := do
  match (← getThe (Active Settings)).leave with
  | .ok a => set a
  | .error f => throw f

end Ambient

end TemplateLexer
