import TemplateLexer.Markup.Written
import TemplateLexer.Selection.Query
/-!
What the values of a policy are used for: the pattern of directives, the digest, the name of what
shields its content, and the name of placeholders. A value that is no good for its use is refused
here.
-/

set_option autoImplicit false

namespace TemplateLexer

namespace Markup.Selection

def read (s : String) : Except Failure Selection :=
  match read? s with
  | some selection => .ok selection
  | none => .error .badValue

mutual

def readAll : Json → Except Failure (List Selection)
  | .str s => do return [← read s]
  | .arr items => readItems items
  | .obj entries => entries.mapM fun (k, _) => read k
  | _ => .error .badType

def readItems : List Json → Except Failure (List Selection)
  | [] => .ok []
  | j :: rest => do
    let here ← readAll j
    return here ++ (← readItems rest)

end

end Markup.Selection

namespace Policy

def matcher (p : Policy) : Except Failure Matcher :=
  match p.directive with
  | .str s =>
    match p.engines.matcher? s with
    | some m => .ok m
    | none => .error .badPattern
  | _ => .error .badType

def hashing (p : Policy) : Except Failure Digest :=
  match p.digest with
  | .str s =>
    match p.engines.digest s with
    | .ok d => .ok d
    | .error .unknown => .error .badValue
    | .error .anyLength => .error .badType
  | _ => .error .badType

def checkShield (p : Policy) : Except Failure Unit := Query.check [p.rawUri, p.rawBase]

/-- What is selected as placeholders; without a name, every element. -/
def placeholders (p : Policy) : Except Failure (List Markup.Selection) :=
  match p.placeholder with
  | .null => .ok [⟨none, none⟩]
  | j => Markup.Selection.readAll j

def newPlaceholder (p : Policy) (above : List Markup.Tag) (id : String) :
    Except Failure Markup.Element :=
  match p.placeholder with
  | .str s =>
    match Markup.newElement? above s [("id", id)] with
    | some e => .ok e
    | none => .error .badValue
  | _ => .error .badType

end Policy

end TemplateLexer
