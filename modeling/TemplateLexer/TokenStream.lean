import TemplateLexer.Failure
/-!
Token streams: lists that are written once, frozen, and then read any number of times. The cursor
counts how many tokens were taken; the count goes one past the length, where nothing is current.
-/

set_option autoImplicit false

namespace TemplateLexer

/-- A stream is written first, newest token in front, and read afterwards. -/
inductive Phase (α : Type) where
  | building (pushed : List α)
  | frozen (tokens : List α)
  deriving DecidableEq, Repr

/-- The source is kept for diagnostics; a stream that reads the last token first is `lifo`. -/
structure TokenStream (σ α : Type) where
  source : σ
  lifo : Bool
  phase : Phase α
  taken : Nat
  deriving DecidableEq, Repr

namespace TokenStream

variable {σ α : Type}

def empty (source : σ) (lifo : Bool) : TokenStream σ α := ⟨source, lifo, .building [], 0⟩

/-- The tokens in reading order; none before the stream is frozen. -/
def toList (s : TokenStream σ α) : List α :=
  match s.phase with
  | .building _ => []
  | .frozen tokens => tokens

def isFrozen (s : TokenStream σ α) : Bool :=
  match s.phase with
  | .building _ => false
  | .frozen _ => true

def push (s : TokenStream σ α) (token : α) : Except Failure (TokenStream σ α) :=
  match s.phase with
  | .building pushed => .ok { s with phase := .building (token :: pushed) }
  | .frozen _ => .error .pushOnFrozen

def rewind (s : TokenStream σ α) : TokenStream σ α := { s with taken := 0 }

def freeze (s : TokenStream σ α) : TokenStream σ α :=
  match s.phase with
  | .building pushed =>
    { s with phase := .frozen (if s.lifo then pushed else pushed.reverse), taken := 0 }
  | .frozen _ => s.rewind

def ofList (source : σ) (tokens : List α) : TokenStream σ α := ⟨source, false, .frozen tokens, 0⟩

def ofPushed (source : σ) (tokens : List α) : TokenStream σ α :=
  ⟨source, true, .frozen tokens.reverse, 0⟩

def current (s : TokenStream σ α) : Option α :=
  if s.taken = 0 then none else s.toList[s.taken - 1]?

/-- Takes the next token; past the end nothing moves any more. -/
def next (s : TokenStream σ α) : Option α × TokenStream σ α :=
  if s.taken ≤ s.toList.length then
    let t := { s with taken := s.taken + 1 }
    (t.current, t)
  else (none, s)

def peek (s : TokenStream σ α) (offset : Int) : Option α :=
  let place : Int := (s.taken : Int) - 1 + offset
  if 0 ≤ place then s.toList[place.toNat]? else none

def atEnd (s : TokenStream σ α) : Bool := s.toList.length ≤ s.taken

/-- The token at an index; a negative index counts from the end. -/
def get (s : TokenStream σ α) (index : Int) : Except Failure α :=
  let place : Int := if index < 0 then s.toList.length + index else index
  if 0 ≤ place then
    match s.toList[place.toNat]? with
    | some token => .ok token
    | none => .error .outOfRange
  else .error .outOfRange

def replay (s : TokenStream σ α) : Except Failure (TokenStream σ α) :=
  match s.phase with
  | .building _ => .error .replayBeforeFreeze
  | .frozen tokens => .ok (ofList s.source tokens)

def describeAs (count : Nat) (state : String) : String :=
  "TokenStream(" ++ toString count ++ " tokens, " ++ state ++ ")"

def describeFrozen (count : Nat) : String := describeAs count "frozen"

def describe (s : TokenStream σ α) : String :=
  match s.phase with
  | .building pushed => describeAs 0 ("building, " ++ toString pushed.length ++ " pushed")
  | .frozen tokens => describeFrozen tokens.length

def content (s : TokenStream σ α) : Bool × List α :=
  match s.phase with
  | .building pushed => (false, pushed.reverse)
  | .frozen tokens => (true, tokens)

@[simp] theorem toList_ofList (source : σ) (tokens : List α) :
    (ofList source tokens).toList = tokens := rfl

@[simp] theorem toList_ofPushed (source : σ) (tokens : List α) :
    (ofPushed source tokens).toList = tokens.reverse := rfl

@[simp] theorem toList_freeze_building (source : σ) (lifo : Bool) (pushed : List α) (n : Nat) :
    (freeze ⟨source, lifo, .building pushed, n⟩).toList
      = if lifo then pushed else pushed.reverse := rfl

@[simp] theorem isFrozen_freeze (s : TokenStream σ α) : s.freeze.isFrozen = true := by
  obtain ⟨_, _, phase, _⟩ := s
  cases phase <;> rfl

end TokenStream

end TemplateLexer
