import TemplateLexer.Json.Order
import TemplateLexer.Logged
import TemplateLexer.Markup.Place
import TemplateLexer.Policy
/-!
Namespaces of helpers. A document declares namespaces; those that the policy does not deny, and
allows if it lists some, hold helpers.
-/

set_option autoImplicit false

namespace TemplateLexer

open Markup

def distinct : List String → List String
  | [] => []
  | x :: rest => x :: (distinct rest).filter (· != x)

theorem mem_distinct {x : String} {xs : List String} : x ∈ distinct xs ↔ x ∈ xs := by
  induction xs with
  | nil => simp [distinct]
  | cons y rest ih =>
    by_cases h : x = y <;> simp [distinct, h, ih]

def declaredNamespaces (root : Element) : List String :=
  distinct (root.places.flatMap fun p => p.bindings.map (·.uri))

namespace Policy

/-- The namespaces that are both allowed and denied, in order. Members of the smaller set stand for
equal ones of the other. -/
def collisions (p : Policy) (allowed : List Json) : Except Failure (List Json) :=
  match p.denied with
  | none => .error .badType
  | some denied =>
    let both := if allowed.length < denied.length then allowed.filter (·.isIn denied)
      else denied.filter (·.isIn allowed)
    match Json.sorted? both with
    | some both => .ok both
    | none => .error .badType

/-- The allowed namespaces that are not denied. A namespace that is both is a failure under a
strict policy and is ignored under others. -/
def checked (p : Policy) : Logged (List Json) :=
  match p.allowed with
  | none => return []
  | some allowed => do
    let both ← Logged.ofExcept (p.collisions allowed)
    both.forM fun uri =>
      if p.strict then Logged.fail (.ambiguousNamespace uri) else Logged.log (.ignored uri.bare)
    return allowed.filter fun uri => !uri.isIn both

def helpersAmong (p : Policy) (allowed : List Json) (declared : List String) :
    Except Failure (List String) :=
  match p.denied with
  | none => if declared.isEmpty then .ok [] else .error .badType
  | some denied =>
    .ok (declared.filter fun uri =>
      !(Json.str uri).isIn denied && (p.allowed.isNone || (Json.str uri).isIn allowed))

def classify (p : Policy) (root : Element) : Logged (List String) := do
  let allowed ← p.checked
  let helpers ← Logged.ofExcept (p.helpersAmong allowed (declaredNamespaces root))
  Logged.log (.classified helpers.length)
  return helpers

end Policy

end TemplateLexer
