set_option autoImplicit false

namespace TemplateLexer.Text

/-- Every run has the number of its first character, and stays within 256 numbers that share all
bytes but the last. A hole is marked by the replacement character. Where runs overlap the first one
counts. -/
structure Charset where
  runs : List (Nat × String)
  deriving DecidableEq, Repr

namespace Charset

def hole : Char := '\ufffd'

def charInRun? (code first : Nat) (chars : String) : Option Char :=
  if first ≤ code && code / 256 == first / 256 then
    match chars.toList[code - first]? with
    | some c => if c == hole then none else some c
    | none => none
  else none

def charOf? (s : Charset) (code : Nat) : Option Char :=
  s.runs.findSome? fun (first, chars) => charInRun? code first chars

def codeOf? (s : Charset) (c : Char) : Option Nat :=
  if c == hole then none
  else s.runs.findSome? fun (first, chars) => (chars.toList.idxOf? c).map (first + ·)

def hasRow (s : Charset) (row : Nat) : Bool := s.runs.any fun (first, _) => first / 256 == row

def empty : Charset := ⟨[]⟩

def union (s t : Charset) : Charset := ⟨s.runs ++ t.runs⟩

def moved (distance : Nat) (s : Charset) : Charset :=
  ⟨s.runs.map fun (first, chars) => (first + distance, chars)⟩

/-- The set with all its numbers changed; a run may have to be cut. -/
def renumbered (f : Nat → Nat) (s : Charset) : Charset :=
  ⟨s.runs.flatMap fun (first, chars) =>
    chars.toList.zipIdx.filterMap fun (c, i) =>
      if c == hole then none else some (f (first + i), String.singleton c)⟩

def lowest (count : Nat) : Charset :=
  ⟨[(0, String.ofList ((List.range count).map Char.ofNat))]⟩

def ascii : Charset := lowest 128

def page (upper : Charset) : Charset := upper.union ascii

end Charset

end TemplateLexer.Text
