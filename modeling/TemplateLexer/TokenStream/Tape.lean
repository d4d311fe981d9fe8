import TemplateLexer.TokenStream
/-!
Streams as they are kept, with the position, the length and the current token beside the tokens, and
what is asked of any number of them.
-/

set_option autoImplicit false

namespace TemplateLexer

/-- A stream with all that it keeps. -/
structure Tape (σ α : Type) where
  source : σ
  lifo : Bool
  /-- In push order; nothing once the tape is frozen. -/
  pushed : Option (List α)
  /-- In reading order; none before the tape is frozen. -/
  tokens : List α
  length : Nat
  position : Int
  current : Option α

namespace Tape

variable {σ α : Type}

def blank (source : σ) (lifo : Bool) : Tape σ α := ⟨source, lifo, some [], [], 0, -1, none⟩

def isFrozen (t : Tape σ α) : Bool := t.pushed.isNone

def push (t : Tape σ α) (token : α) : Except Failure (Tape σ α) :=
  match t.pushed with
  | none => .error .pushOnFrozen
  | some pushed => .ok { t with pushed := some (pushed ++ [token]) }

def rewind (t : Tape σ α) : Tape σ α := { t with position := -1, current := none }

def fix (t : Tape σ α) : Tape σ α :=
  match t.pushed with
  | none => t
  | some pushed =>
    let tokens := if t.lifo then pushed.reverse else pushed
    { t with tokens, length := tokens.length, pushed := none }

def freeze (t : Tape σ α) : Tape σ α := t.fix.rewind

def next (t : Tape σ α) : Option α × Tape σ α :=
  let position := if t.position < t.length then t.position + 1 else t.position
  let current := if position < t.length then t.tokens[position.toNat]? else none
  (current, { t with position, current })

def peek (t : Tape σ α) (offset : Int) : Option α :=
  let place := t.position + offset
  if 0 ≤ place ∧ place < t.length then t.tokens[place.toNat]? else none

def atEnd (t : Tape σ α) : Bool := t.length ≤ t.position + 1

def replay (t : Tape σ α) : Except Failure (Tape σ α) :=
  match t.pushed with
  | some _ => .error .replayBeforeFreeze
  | none =>
    .ok { blank t.source false with pushed := none, tokens := t.tokens, length := t.length }

/-- Equality up to an equality of tokens; the source and the cursor do not matter. -/
def same (eq : α → α → Bool) (t u : Tape σ α) : Bool :=
  t.tokens.isEqv u.tokens eq && match t.pushed, u.pushed with
    | none, none => true
    | some xs, some ys => xs.isEqv ys eq
    | _, _ => false

def view (t : Tape σ α) : TokenStream σ α where
  source := t.source
  lifo := t.lifo
  phase := match t.pushed with
    | none => .frozen t.tokens
    | some pushed => .building pushed.reverse
  taken := (t.position + 1).toNat

/-- What a tape can be asked to do. -/
inductive Order (α : Type) where
  | push (token : α)
  | freeze
  | rewind
  | next
  | peek (offset : Int)
  | replay

/-- What comes back from an order. -/
inductive Given (σ α : Type) where
  | nothing
  | token (token : Option α)
  | tape (tape : Tape σ α)

abbrev Answer (σ α : Type) := Except Failure (Given σ α)

def Answer.made : Answer σ α → List (Tape σ α)
  | .ok (.tape t) => [t]
  | _ => []

/-- The answer to an order, and what the tape becomes. What is refused changes nothing. -/
def obey (t : Tape σ α) : Order α → Answer σ α × Tape σ α
  | .push token =>
    match t.push token with
    | .ok u => (.ok .nothing, u)
    | .error f => (.error f, t)
  | .freeze => (.ok .nothing, t.freeze)
  | .rewind => (.ok .nothing, t.rewind)
  | .next => (.ok (.token t.next.1), t.next.2)
  | .peek offset => (.ok (.token (t.peek offset)), t)
  | .replay => (t.replay.map .tape, t)

/-- Tapes are told apart by number. -/
inductive Command (σ α : Type) where
  | create (source : σ) (lifo : Bool)
  | tell (tape : Nat) (order : Order α)

end Tape

abbrev Tapes (σ α : Type) := List (Tape σ α)

namespace Tapes

open Tape

variable {σ α : Type}

def step (ts : Tapes σ α) : Command σ α → Answer σ α × Tapes σ α
  | .create source lifo => (.ok (.tape (blank source lifo)), ts ++ [blank source lifo])
  | .tell i order =>
    match ts[i]? with
    | none => (.error .noSuchName, ts)
    | some t =>
      let (answer, u) := t.obey order
      (answer, ts.set i u ++ answer.made)

def run (ts : Tapes σ α) : List (Command σ α) → List (Answer σ α) × Tapes σ α
  | [] => ([], ts)
  | c :: cs =>
    let (answer, next) := ts.step c
    let (answers, last) := run next cs
    (answer :: answers, last)

def after (cs : List (Command σ α)) : Tapes σ α := (run [] cs).2

end Tapes

end TemplateLexer
