import TemplateLexer.Failure

set_option autoImplicit false

namespace TemplateLexer

/-- The settings in force, and those to come back to, innermost first. -/
structure Active (α : Type) where
  current : α
  saved : List α

namespace Active

variable {α : Type}

def start (standard : α) : Active α := ⟨standard, []⟩

def set (a : Active α) (settings : α) : Active α := { a with current := settings }

def enter (a : Active α) (settings : α) : Active α := ⟨settings, a.current :: a.saved⟩

def leave (a : Active α) : Except Failure (Active α) :=
  match a.saved with
  | [] => .error .outOfRange
  | previous :: saved => .ok ⟨previous, saved⟩

@[simp] theorem leave_enter (a : Active α) (settings : α) :
    (a.enter settings).leave = .ok a := rfl

@[simp] theorem leave_set_enter (a : Active α) (first second : α) :
    ((a.enter first).set second).leave = .ok a := rfl

end Active

end TemplateLexer
