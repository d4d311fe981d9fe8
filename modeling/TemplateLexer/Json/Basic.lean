set_option autoImplicit false

namespace TemplateLexer

inductive Json where
  | null
  | bool (value : Bool)
  | int (value : Int)
  | decimal (text : String)
  | str (value : String)
  | arr (items : List Json)
  | obj (entries : List (String × Json))
  deriving Repr, Inhabited

def lookupKey {α : Type} (key : String) : List (String × α) → Option α
  | [] => none
  | (k, v) :: rest => if k = key then some v else lookupKey key rest

def putKey {α : Type} (key : String) (value : α) : List (String × α) → List (String × α)
  | [] => [(key, value)]
  | (k, v) :: rest => if k = key then (key, value) :: rest else (k, v) :: putKey key value rest

@[simp] theorem lookupKey_putKey {α : Type} (key : String) (value : α)
    (entries : List (String × α)) :
    lookupKey key (putKey key value entries) = some value := by
  induction entries with
  | nil => simp [putKey, lookupKey]
  | cons e rest ih =>
    obtain ⟨k, v⟩ := e
    by_cases h : k = key <;> simp [putKey, lookupKey, h, ih]

namespace Json

/-- A value that may be missing; a missing one is null. -/
def ofOption {α : Type} (write : α → Json) : Option α → Json
  | some a => write a
  | none => null

/-- The value of a key of an object; other values have no keys. -/
def get? (key : String) : Json → Option Json
  | obj entries => lookupKey key entries
  | _ => none

def str? : Json → Option String
  | str s => some s
  | _ => none

def field? (key : String) (j : Json) : Option Json :=
  match j.get? key with
  | some null => none
  | v => v

def number? : Json → Option Int
  | int n => some n
  | bool b => some (if b then 1 else 0)
  | _ => none

/-- Null, false, zero and what is empty are false; all else is true. -/
def truthy : Json → Bool
  | null => false
  | bool b => b
  | int n => n != 0
  | decimal _ => true
  | str s => !s.isEmpty
  | arr items => !items.isEmpty
  | obj entries => !entries.isEmpty

mutual

/-- Equality of values: the order of the entries of an object does not matter. -/
def same : Json → Json → Bool
  | null, null => true
  | decimal a, decimal b => a == b
  | str a, str b => a == b
  | arr xs, arr ys => sameItems xs ys
  | obj xs, obj ys => xs.length == ys.length && sameEntries xs ys
  | bool a, j => (bool a).number? == j.number?
  | int a, j => (int a).number? == j.number?
  | _, _ => false

def sameItems : List Json → List Json → Bool
  | [], [] => true
  | x :: xs, y :: ys => same x y && sameItems xs ys
  | _, _ => false

def sameEntries : List (String × Json) → List (String × Json) → Bool
  | [], _ => true
  | (k, x) :: xs, ys =>
    (match lookupKey k ys with
      | some y => same x y
      | none => false) && sameEntries xs ys

end

/-- The members of a collection: the items of an array, the characters of a text, or the keys of an
object. -/
def members? : Json → Option (List Json)
  | arr items => some items
  | str s => some (s.toList.map fun c => .str (String.ofList [c]))
  | obj entries => some (entries.map fun (k, _) => .str k)
  | _ => none

def isIn (j : Json) (l : List Json) : Bool := l.any j.same

end Json

end TemplateLexer
