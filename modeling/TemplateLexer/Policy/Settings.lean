import TemplateLexer.Failure
import TemplateLexer.Json.Order
import TemplateLexer.Policy
/-!
Policies as they are written in settings. Unknown names are passed over, a missing one has its
standard value, and collections of namespaces are sets.
-/

set_option autoImplicit false

namespace TemplateLexer

/-- The value of every setting; a set is an array. -/
structure Settings where
  denied : Json
  allowed : Json
  rawUri : Json
  rawBase : Json
  placeholder : Json
  directive : Json
  digest : Json
  strict : Json

namespace Settings

/-- A set of namespaces from a collection, if there is one. No member is a collection of other
values itself. -/
def collection : Json → Except Failure Json
  | .null => .ok .null
  | j =>
    match j.members? with
    | none => .error .badType
    | some members =>
      if members.any fun m => match m with
        | .arr _ | .obj _ => true
        | _ => false
      then .error .badType
      else .ok (.arr (Json.distinct members))

def standard : Settings :=
  let p := Policy.standard
  { denied := .ofOption .arr p.denied
    allowed := .ofOption .arr p.allowed
    rawUri := p.rawUri
    rawBase := p.rawBase
    placeholder := p.placeholder
    directive := p.directive
    digest := p.digest
    strict := .bool p.strict }

def read : Json → Except Failure Settings
  | .obj entries => do
    let value (key : String) (other : Json) := (lookupKey key entries).getD other
    let denied ← collection (value "non_helper_namespaces" standard.denied)
    let allowed ← collection (value "helper_namespaces" standard.allowed)
    .ok { denied, allowed
          rawUri := value "raw_namespace" standard.rawUri
          rawBase := value "raw_local_name" standard.rawBase
          placeholder := value "placeholder_tag" standard.placeholder
          directive := value "directive_comment_pattern" standard.directive
          digest := value "id_algorithm" standard.digest
          strict := value "strict" standard.strict }
  | _ => .error .notAnObject

def inOrder : Json → Except Failure Json
  | .arr set =>
    match Json.sorted? set with
    | some l => .ok (.arr l)
    | none => .error .badType
  | j => .ok j

/-- The written form; a set without an order cannot be written. -/
def json (s : Settings) : Except Failure Json := do
  let denied ← inOrder s.denied
  let allowed ← inOrder s.allowed
  .ok (.obj [("non_helper_namespaces", denied), ("helper_namespaces", allowed),
    ("raw_namespace", s.rawUri), ("raw_local_name", s.rawBase),
    ("placeholder_tag", s.placeholder), ("directive_comment_pattern", s.directive),
    ("id_algorithm", s.digest), ("strict", s.strict)])

def set? : Json → Option (List Json)
  | .arr members => some members
  | _ => none

def policy (s : Settings) : Policy where
  denied := set? s.denied
  allowed := set? s.allowed
  rawUri := s.rawUri
  rawBase := s.rawBase
  placeholder := s.placeholder
  directive := s.directive
  digest := s.digest
  strict := s.strict.truthy

end Settings

end TemplateLexer
