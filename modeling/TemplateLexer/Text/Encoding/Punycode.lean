set_option autoImplicit false

namespace TemplateLexer.Text.Punycode

def digit (n : Nat) : Char := if n < 26 then Char.ofNat (97 + n) else Char.ofNat (48 + n - 26)

def threshold (position bias : Nat) : Nat :=
  if position ≤ bias + 1 then 1 else if bias + 26 ≤ position then 26 else position - bias

/-- The digits of a number; the fuel is enough if the number is. -/
def digits (bias : Nat) : (fuel : Nat) → (position n : Nat) → List Char
  | 0, _, _ => []
  | fuel + 1, position, n =>
    let t := threshold position bias
    if n < t then [digit n]
    else digit (t + (n - t) % (36 - t)) :: digits bias fuel (position + 36) ((n - t) / (36 - t))

def shrink : (fuel : Nat) → (n bias : Nat) → Nat × Nat
  | 0, n, bias => (n, bias)
  | fuel + 1, n, bias => if 455 < n then shrink fuel (n / 35) (bias + 36) else (n, bias)

def adapt (n count : Nat) (first : Bool) : Nat :=
  let n := if first then n / 700 else n / 2
  let (n, bias) := shrink n (n + n / count) 0
  bias + 36 * n / (n + 38)

/-- What was written, the characters done, the bias, and the steps since the last one. -/
structure State where
  out : List Char
  done : Nat
  bias : Nat
  steps : Nat

def pass (basic point : Nat) (s : State) (c : Char) : State :=
  if c.toNat < point then { s with steps := s.steps + 1 }
  else if c.toNat == point then
    { out := s.out ++ digits s.bias (s.steps + 1) 36 s.steps
      done := s.done + 1
      bias := adapt s.steps (s.done + 1) (s.done == basic)
      steps := 0 }
  else s

def passes (basic : Nat) (cs : List Char) : (point : Nat) → List Nat → State → State
  | _, [], s => s
  | point, next :: more, s =>
    let s := { s with steps := s.steps + (next - point) * (s.done + 1) }
    let s := cs.foldl (pass basic next) s
    passes basic cs (next + 1) more { s with steps := s.steps + 1 }

def encode (cs : List Char) : List Char :=
  let basic := cs.filter fun c => c.toNat < 128
  let points := ((cs.filter fun c => 128 ≤ c.toNat).map Char.toNat).mergeSort.eraseDups
  let start : State := ⟨[], basic.length, 72, 0⟩
  basic ++ (if basic.isEmpty then [] else ['-']) ++ (passes basic.length cs 128 points start).out

end TemplateLexer.Text.Punycode
